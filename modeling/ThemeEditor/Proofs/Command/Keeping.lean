/-
# ThemeEditor.Proofs.Command.Keeping -- stored documents that cannot be loaded

A document that cannot be loaded may be the user's only copy of something.  It is
given up for new settings that are saved, and for nothing else that a user does.

In a session the bytes of the document stay through every operation but a
successful save, exports over the document included (`Holds.perform`,
`Holds.run`).  Of the commands only those that replace the settings open a
session on such a document; they write to the disk if they save, and then the
new settings are loaded (`Spared`, `spared_run`).  Every other command fails and
leaves the world alone (`run_of_unreadable`).

The system may still lose the document.  It is opened to be written over, and if
the write is cut off there, neither the old bytes are left nor the new settings.  And
where nothing is stored there is nothing to keep: an export may put the first document
there (`not_kept_of_nothing_or_full`).
-/
import ThemeEditor.Proofs.Command.Recovery
import ThemeEditor.Proofs.Storage.Export

namespace ThemeEditor

set_option autoImplicit false

open Disk (Beginning CutOff)
open Storage (Damaged)

namespace Operation

/-- Whether an operation is a save, and succeeds. -/
def isSaved (s : Session) (op : Operation) : Bool :=
  match op, (op.perform s).result with
  | save, .ok () => true
  | _, _ => false

/-- Whether some operation of a run is a save that succeeds. -/
def isSavedBy : Session → List Operation → Bool
  | _, [] => false
  | s, op :: ops => op.isSaved s || isSavedBy (op.perform s).session ops

variable {s : Session} {was : Prop}

theorem damages_of_unsaved {op : Operation} (unsaved : op.isSaved s = false) :
    op.damages s was ↔
      was ∨ Damaged s.storage s.world.disk (op.perform s).session.world.disk := by
  cases op with
  | save =>
      unfold isSaved at unsaved
      unfold damages
      cases saved : (save.perform s).result with
      | ok done =>
          rw [saved] at unsaved
          cases unsaved
      | error e => exact .rfl
  | _ => exact .rfl

/-- What is damaged stays so until a save succeeds. -/
theorem damagedBy_of_was : ∀ (ops : List Operation) {s : Session} {was : Prop}, was →
    isSavedBy s ops = false → damagedBy s was ops
  | [], _, _, damaged, _ => damaged
  | op :: ops, _, _, damaged, unsaved => by
      obtain ⟨first, rest⟩ := Bool.or_eq_false_iff.1 unsaved
      exact damagedBy_of_was ops ((damages_of_unsaved first).2 (.inl damaged)) rest

end Operation

namespace Session

/-- The bytes that are stored where the session is going to save. -/
structure Holds (storage : Storage) (bytes : ByteArray) (s : Session) : Prop where
  on : s.storage = storage
  held : storage.content s.world.disk = some bytes

variable {s s' : Session} {storage : Storage} {bytes : ByteArray}

/-! ## Sessions -/

theorem Holds.sameBase (holds : Holds storage bytes s) (same : SameBase s s') :
    Holds storage bytes s' where
  on := same.storage.trans holds.on
  held := same.disk ▸ holds.held

/-- What is stored is copied as it is, even over itself. -/
theorem Holds.exportTo (holds : Holds storage bytes s) {directory : String}
    (undamaged : ¬ Damaged storage s.world.disk (s.exportTo directory).session.world.disk) :
    Holds storage bytes (s.exportTo directory).session := by
  obtain ⟨sameStorage, disk, -⟩ := exportTo_base s directory
  rw [holds.on] at disk
  rw [disk] at undamaged
  have kept := (Storage.content_exportTo holds.held directory).resolve_right undamaged
  exact ⟨sameStorage.trans holds.on, disk ▸ kept⟩

/-- A save that fails leaves what is stored, if it is not cut off. -/
theorem Holds.save (holds : Holds storage bytes s) {e : ActionError}
    (failed : s.save.result = .error e)
    (undamaged : ¬ Damaged storage s.world.disk s.save.session.world.disk) :
    Holds storage bytes s.save.session := by
  obtain ⟨sameStorage, disk, -, succeeds⟩ := save_base s
  rw [holds.on] at disk succeeds
  refine ⟨sameStorage.trans holds.on, ?_⟩
  by_contra other
  have savedOver := Storage.savedOver holds.held s.settings
  rw [disk] at undamaged other
  generalize storage.save s.world.disk s.settings = result at savedOver succeeds undamaged other
  cases savedOver with
  | saved => exact nomatch failed.symm.trans (succeeds.2 rfl)
  | refused e uncut => exact other ((Storage.content_withStops _ storage _).trans holds.held)
  | cut e isCut put beginning => exact undamaged ⟨isCut, fun same => other (same.trans holds.held)⟩

/-- Only a save can change what is stored, or a write that is cut off. -/
theorem Holds.perform (holds : Holds storage bytes s) {op : Operation}
    (unsaved : op.isSaved s = false)
    (undamaged : ¬ Damaged storage s.world.disk (op.perform s).session.world.disk) :
    Holds storage bytes (op.perform s).session := by
  cases quiet : op.writes with
  | false => exact holds.sameBase (sameBase_perform quiet)
  | true =>
      cases op with
      | exportTo directory => exact holds.exportTo undamaged
      | save =>
          have result : (Operation.save.perform s).result = s.save.result := rfl
          cases ended : s.save.result with
          | error e => exact holds.save ended undamaged
          | ok done =>
              unfold Operation.isSaved at unsaved
              rw [result, ended] at unsaved
              cases unsaved
      | _ => cases quiet

theorem Holds.run : ∀ (ops : List Operation) {s : Session} {was : Prop},
    Holds storage bytes s → Operation.isSavedBy s ops = false →
      ¬ Operation.damagedBy s was ops → Holds storage bytes (Operation.run s ops)
  | [], _, _, holds, _, _ => holds
  | op :: ops, s, was, holds, unsaved, undamaged => by
      obtain ⟨first, rest⟩ := Bool.or_eq_false_iff.1 unsaved
      refine Holds.run ops (holds.perform first fun damaged => undamaged ?_) rest undamaged
      refine Operation.damagedBy_of_was ops ((Operation.damages_of_unsaved first).2 (.inr ?_)) rest
      exact holds.on.symm ▸ damaged

theorem Holds.closeDiscarding (holds : Holds storage bytes s) :
    Holds storage bytes (s.close false).session := by
  refine holds.sameBase ?_
  unfold close
  rw [if_neg Bool.false_ne_true]
  split
  · exact ⟨rfl, rfl, rfl⟩
  · exact ⟨rfl, rfl, rfl⟩

/-- A session that starts without what is stored starts on its bytes. -/
theorem holds_of_opened {world : World} (opened : (openDiscarding storage world).1 = .ok s)
    (stored : storage.get world.disk Storage.settingsKey ≠ .ok none) :
    ∃ bytes, Holds storage bytes s ∧ storage.content world.disk = some bytes := by
  have held : ∃ bytes, storage.content world.disk = some bytes := by
    unfold openDiscarding at opened
    split at opened
    · next corrupt =>
      obtain ⟨text, held⟩ := Storage.content_of_corrupt corrupt
      exact ⟨_, held⟩
    · obtain ⟨text?, got, -⟩ := Storage.load_eq_ok.1 (openOn_eq_ok opened).1
      cases text? with
      | none => exact absurd got stored
      | some text => exact ⟨_, Storage.get_text_iff.1 got⟩
  obtain ⟨bytes, held⟩ := held
  obtain ⟨settings, rfl⟩ := start_of_opened (.inr opened)
  exact ⟨bytes, ⟨rfl, held⟩, held⟩

end Session

namespace Command

open Session (Edited Holds SameBase)

variable {storage : Storage} {world : World} {bytes : ByteArray} {e : Storage.Error}

/-! ## Commands -/

/-- The files are left alone, but for settings that are saved: these are loaded. -/
structure Spared (storage : Storage) (d : Disk) (save : Bool)
    (result : Except ActionError Settings) (d' : Disk) : Prop where
  replaced : save = true → ∀ s, result = .ok s → storage.load d' = .ok s
  kept : (save = true → ∀ s, result ≠ .ok s) → ¬ CutOff d d' → ∃ stops, d' = d.withStops stops
  /-- A save that is cut off fails, and leaves nothing that can be loaded. -/
  cut : CutOff d d' → save = true ∧ (∃ failure, result = .error failure) ∧
    ∃ (s : Settings) (part : ByteArray), storage.content d' = some part ∧
      Beginning part s.encodeIndented ∧ ∀ t, storage.load d' ≠ .ok t

theorem spared_self (d : Disk) {save : Bool} {result : Except ActionError Settings}
    (unsaved : save = true → ∀ s, result ≠ .ok s) : Spared storage d save result d where
  replaced saves s returned := absurd returned (unsaved saves s)
  kept _ _ := ⟨d.stops, rfl⟩
  cut isCut := absurd isCut (Disk.not_cutOff_self d)

/-- A session on a document spares the disk when it is closed. -/
theorem spared_close {s : Session} (holds : Holds storage bytes s) (save : Bool) :
    Spared storage s.world.disk save (s.close save).result (s.close save).session.world.disk := by
  cases save with
  | false =>
      obtain ⟨-, disk⟩ := Session.close_discarding s
      rw [disk]
      exact spared_self _ nofun
  | true =>
      obtain ⟨-, disk, pristine, succeeds⟩ := Session.save_base s
      obtain ⟨closed, left⟩ := Session.close_saving s
      have failing := @Session.save_of_error s
      have savedOver := Storage.savedOver holds.held s.settings
      rw [holds.on] at disk pristine succeeds failing
      rw [closed, left, disk, pristine]
      generalize storage.save s.world.disk s.settings = result
        at savedOver succeeds failing ⊢
      cases savedOver with
      | saved uncut loaded =>
          rw [succeeds.2 rfl]
          refine ⟨fun _ t same => ?_, fun unsaved => absurd rfl (unsaved rfl _), fun isCut =>
            absurd isCut uncut⟩
          cases same
          exact loaded
      | @refused e stops uncut =>
          rw [failing rfl]
          exact ⟨nofun, fun _ _ => ⟨stops, rfl⟩, fun isCut => absurd isCut uncut⟩
      | cut e isCut put beginning =>
          rw [failing rfl]
          refine ⟨nofun, fun _ uncut => absurd isCut uncut, fun _ => ⟨rfl, ⟨_, rfl⟩, _, _, put,
            beginning, fun t => Storage.unloaded_of_beginning put beginning⟩⟩

/-- The commands that replace the settings write to the disk in the end only. -/
theorem spared_of_ends {s : Session} (holds : Holds storage bytes s) {command : Command}
    (replaces : command.replacesSettings = true) {result : Except ActionError Settings}
    {d' : Disk} (ends : Ends s command result d') :
    Spared storage s.world.disk command.saves result d' := by
  cases ends with
  | failed e => exact spared_self _ nofun
  | closed same =>
      rw [← same.disk]
      exact spared_close (holds.sameBase same) _
  | exported edits =>
      rw [replaces] at edits
      cases edits

section

variable (unreadable : storage.load world.disk = .error e)

include unreadable

/-- On a document that cannot be loaded a session is opened only by the commands that replace the
settings, and only on a corrupt text. -/
theorem openSession_of_unreadable (command : Command) :
    (command.openSession storage world).1 = .error e.toActionError ∨
      command.replacesSettings = true ∧
        (command.openSession storage world).1 = .ok (Session.start storage world .default) ∧
        ∃ bytes, Holds storage bytes (Session.start storage world .default) := by
  unfold openSession
  split
  · next replaces =>
    unfold Session.openDiscarding
    split
    · next corrupt =>
      obtain ⟨text, held⟩ := Storage.content_of_corrupt corrupt
      exact .inr ⟨replaces, rfl, _, rfl, held⟩
    · unfold Session.openOn
      rw [unreadable]
      exact .inl rfl
  · unfold Session.openOn
    rw [unreadable]
    exact .inl rfl

theorem spared_run (ask : Mode → UInt8 → Answer) {command : Command}
    (replaces : command.replacesSettings = true) :
    let ran := command.run ask storage world
    Spared storage world.disk command.saves ran.result ran.world.disk := by
  intro ran
  rcases openSession_of_unreadable unreadable command with failed | ⟨-, opened, bytes, holds⟩
  · obtain ⟨result, same⟩ := run_of_refused ask failed
    rw [result, same]
    exact spared_self _ nofun
  · obtain ⟨result, left⟩ := run_of_opened ask opened
    rw [result, left]
    exact spared_of_ends holds replaces (ends_runIn ask _ command)

theorem run_of_unreadable (ask : Mode → UInt8 → Answer) {command : Command}
    (edits : command.replacesSettings = false) :
    (command.run ask storage world).result = .error e.toActionError ∧
      (command.run ask storage world).world = world := by
  rcases openSession_of_unreadable unreadable command with failed | ⟨replaces, -⟩
  · exact run_of_refused ask failed
  · rw [edits] at replaces
    cases replaces

end

/-- **A document that cannot be loaded is given up for saved settings only.**  A command that
replaces the settings leaves the files as they are, unless it saves and returns settings, which are
loaded then, or its save is cut off; every other command fails in the storage and changes nothing.
In a session that starts without what is stored its bytes stay until a save succeeds or a write to
them is cut off, also when the session is closed without a save. -/
theorem given_up_for_saved_settings (storage : Storage) (world : World) :
    (∀ e, storage.load world.disk = .error e →
      ∀ (ask : Mode → UInt8 → Answer) (command : Command),
        let ran := command.run ask storage world
        (command.replacesSettings = true →
          Spared storage world.disk command.saves ran.result ran.world.disk) ∧
        (command.replacesSettings = false →
          (∃ failure, ran.result = .error failure ∧ failure.area = .storage) ∧
            ran.world = world)) ∧
      ∀ (s : Session) (ops : List Operation), (Session.openDiscarding storage world).1 = .ok s →
        storage.get world.disk Storage.settingsKey ≠ .ok none →
        Operation.isSavedBy s ops = false → ¬ Operation.damagedBy s False ops →
          let now := Operation.run s ops
          ∃ bytes, storage.content world.disk = some bytes ∧
            storage.content now.world.disk = some bytes ∧
            storage.content (now.close false).session.world.disk = some bytes := by
  refine ⟨fun e unreadable ask command => ⟨spared_run unreadable ask, fun edits => ?_⟩,
    fun s ops opened stored unsaved undamaged => ?_⟩
  · obtain ⟨failed, same⟩ := run_of_unreadable unreadable ask edits
    exact ⟨⟨_, failed, rfl⟩, same⟩
  · obtain ⟨bytes, holds, held⟩ := Session.holds_of_opened opened stored
    have kept := holds.run ops unsaved undamaged
    exact ⟨bytes, held, kept.held, kept.closeDiscarding.held⟩

/-- A session that edits, exports and imports without a save. -/
def aroundDamaged : List Operation :=
  [.pushAccent "#fff", .exportTo "theme", .importFrom "new.json", .reset]

/-- A document that is cut short stays while accents are added, palettes exported over it and
other settings imported, and is replaced by a reset that is saved. -/
theorem given_up_damaged :
    let world : World := ⟨damaged "[".toUTF8, Session.unused⟩
    let s := Session.start ⟨"theme"⟩ world .default
    (Storage.mk "theme").load world.disk = .error (.corrupt "settings" ⟨.endInList, 1, 1⟩) ∧
      (∃ failure, ((addAccent "#fff" true).run Session.noPalettes ⟨"theme"⟩ world).result =
        .error failure ∧ failure.area = .storage) ∧
      (∃ stops, ((importFile "new.json" false).run Session.noPalettes ⟨"theme"⟩ world).world.disk =
        world.disk.withStops stops) ∧
      (Storage.mk "theme").load
        ((reset true).run Session.noPalettes ⟨"theme"⟩ world).world.disk = .ok .default ∧
      (Session.openDiscarding ⟨"theme"⟩ world).1 = .ok s ∧
      (Storage.mk "theme").content (Operation.run s aroundDamaged).world.disk =
        some "[".toUTF8 := by
  intro world s
  have unreadable : (Storage.mk "theme").load world.disk =
      .error (.corrupt "settings" ⟨.endInList, 1, 1⟩) := rfl
  have opened : (Session.openDiscarding ⟨"theme"⟩ world).1 = .ok s := rfl
  have steady : world.disk.Steady := List.forall_mem_nil _
  have same : (Storage.mk "theme").content world.disk = some "[".toUTF8 := content_damaged _
  have stored : (Storage.mk "theme").get world.disk Storage.settingsKey ≠ .ok none := by
    rw [Storage.get_text_iff.2 same]
    exact nofun
  obtain ⟨commands, sessions⟩ := given_up_for_saved_settings ⟨"theme"⟩ world
  obtain ⟨bytes, held, kept, -⟩ := sessions s aroundDamaged opened stored rfl
    (Session.not_damagedBy aroundDamaged steady id)
  rw [same] at held
  cases held
  refine ⟨unreadable, ?_, ?_, ?_, opened, kept⟩
  · exact ((commands _ unreadable Session.noPalettes (addAccent "#fff" true)).2 rfl).1
  · exact ((commands _ unreadable Session.noPalettes (importFile "new.json" false)).1 rfl).kept
      nofun steady.not_cutOff
  · have recovered : Recovers Session.noPalettes ⟨"theme"⟩ world (.reset true) .default :=
      recovers_reset same steady.ready "[".isValidUTF8
    have returned := recovered.returns
    exact ((commands _ unreadable Session.noPalettes (reset true)).1 rfl).replaced rfl _ returned

/-! ## What is not kept -/

/-- A disk with a storage in which nothing is stored. -/
def bare : Disk :=
  (Disk.blank ["home"]).put ["home", "theme"] .directory

/-- On a full disk a reset that is to be saved empties what is stored. -/
theorem reset_of_full {room : Nat} {words : String} {stops : List (Option Disk.Stop)}
    (held : storage.content world.disk = some bytes) (text : bytes.IsValidUTF8)
    (told : world.disk.stops = some (.full room words) :: stops) :
    let ran := (reset true).run Session.noPalettes storage world
    (∃ failure, ran.result = .error failure) ∧ storage.content ran.world.disk =
      some (Disk.Stop.part room Settings.default.encodeIndented.toUTF8) := by
  intro ran
  obtain ⟨s, opened⟩ := openSession_of_text held text (.reset true) rfl
  obtain ⟨e, d, saved, -, put⟩ := Storage.cut_of_full held told .default
  let edited := (Session.start storage world s).reset.session
  obtain ⟨result, left⟩ := run_of_opened Session.noPalettes opened
  obtain ⟨-, disk, -⟩ := Session.save_base edited
  have failed : edited.save.result = .error e.toActionError :=
    Session.save_of_error (congrArg Prod.fst saved)
  have closed := Session.close_of_error failed
  have now : ran.world.disk = d :=
    (congrArg World.disk left).trans (disk.trans (congrArg Prod.snd saved))
  exact ⟨⟨_, result.trans closed⟩, now ▸ put⟩

/-- **Where nothing is stored, an export may put the first document there; and on a full disk the
document is lost to a save that fails.** -/
theorem not_kept_of_nothing_or_full :
    (let world : World := ⟨bare, Session.unused⟩
    let s := Session.start ⟨"theme"⟩ world .default
    let ops : List Operation := [.exportTo "theme"]
    (Session.openDiscarding ⟨"theme"⟩ world).1 = .ok s ∧ Operation.isSavedBy s ops = false ∧
      (Storage.mk "theme").content (Operation.run s ops).world.disk ≠
        (Storage.mk "theme").content world.disk) ∧
    let world : World := ⟨(Session.holding "[".toUTF8).full, Session.unused⟩
    let ran := (reset true).run Session.noPalettes ⟨"theme"⟩ world
    (∃ e, (Storage.mk "theme").load world.disk = .error e) ∧
      (∃ failure, ran.result = .error failure) ∧
      (Storage.mk "theme").content ran.world.disk ≠
        (Storage.mk "theme").content world.disk := by
  constructor
  · intro world s ops
    have nothing : (Storage.mk "theme").content world.disk = none := rfl
    have exported : ((Storage.mk "theme").exportTo bare "theme").1 = .ok "theme/settings.json" :=
      rfl
    obtain ⟨-, stored, -, copied⟩ := Storage.exportTo_ok exported
    have disk : (Operation.run s ops).world.disk =
        ((Storage.mk "theme").exportTo bare "theme").2 := (Session.exportTo_base s "theme").2.1
    have put : (Storage.mk "theme").content _ = some _ := Storage.content_eq_some.2 copied
    refine ⟨rfl, rfl, ?_⟩
    rw [nothing, disk]
    exact fun none => nomatch put.symm.trans none
  · intro world ran
    have held : (Storage.mk "theme").content world.disk = some "[".toUTF8 :=
      (Storage.content_withStops _ _ _).trans (Session.content_holding _)
    have corrupt : ∃ e, (Storage.mk "theme").load (Session.holding "[".toUTF8) = .error e :=
      ⟨_, rfl⟩
    obtain ⟨e, corrupt⟩ := corrupt
    have told : world.disk.stops = [some (.full 0 Disk.noSpace)] := Disk.stops_withStops _ _
    obtain ⟨failed, left⟩ := reset_of_full held "[".isValidUTF8 told
    have nothing : (Disk.Stop.part 0 Settings.default.encodeIndented.toUTF8).size = 0 := by
      rw [Disk.Stop.part, Nat.zero_min, ByteArray.size_extract, Nat.zero_min]
    refine ⟨⟨e, (Storage.load_withStops _ _ _).trans corrupt⟩, failed, fun same => ?_⟩
    have bytes := Option.some.inj (left.symm.trans (same.trans held))
    rw [bytes] at nothing
    cases nothing

end Command

end ThemeEditor
