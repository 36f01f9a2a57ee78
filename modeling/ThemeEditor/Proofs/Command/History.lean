/-
# ThemeEditor.Proofs.Command.History -- commands one after the other

Only the disk is left from one command to the next.  A `Use` of the program is a
command with all that it meets: the answers of the theme service, the palettes at
hand, what others have done to the disk in the meantime, which is anything away from
the storage, and what the system is going to do to the writes of the command.

Each use settles what it finds, so after any history of uses the settings of the
last successful save are there, and the next command returns what is loaded after
it (`Remembers`, `Remembers.next`, `Use.persisted_by_saves`).

Two things come between, as they do for one session
(`Use.unreadable_after_failed_command`).  A command whose write was cut off may leave
settings that cannot be loaded until the next one saves, though no others; and roots
with a name that is too long are left out.
-/
import ThemeEditor.Proofs.Command.Settling

namespace ThemeEditor

set_option autoImplicit false

open Storage (Apart Damaged Leaves Placed Rooted Stores TooLong)

/-- A use of the program on a storage: a command, and all that it meets. -/
structure Use (storage : Storage) where
  command : Command
  ask : Mode → UInt8 → Answer
  supply : Supply
  /-- What others do to the disk before. -/
  others : Disk → Disk
  apart : ∀ d, d.Sound → Apart storage d (others d)

namespace Use

variable {storage : Storage} {d : Disk} {persisted : Settings}

/-- The use on a disk that earlier ones have left. -/
def run (use : Use storage) (d : Disk) : Ran :=
  use.command.run use.ask storage ⟨use.others d, use.supply⟩

/-- The disk that a use leaves. -/
def next (d : Disk) (use : Use storage) : Disk :=
  (use.run d).world.disk

/-- The disk after a history. -/
def after (d : Disk) (history : List (Use storage)) : Disk :=
  history.foldl next d

/-- The settings that a use returned, if it succeeded and was asked to save. -/
def saved? (use : Use storage) (d : Disk) : Option Settings :=
  if use.command.saves then (use.run d).result.toOption else none

/-- The settings that the last successful use with a save returned, or `persisted` if there
was none. -/
def lastSaved : Disk → Settings → List (Use storage) → Settings
  | _, persisted, [] => persisted
  | d, persisted, use :: history =>
      lastSaved (next d use) ((use.saved? d).getD persisted) history

/-- Whether the stored document is damaged after a use: since the last successful save a write to
it was cut off. -/
def damages (d : Disk) (was : Prop) (use : Use storage) : Prop :=
  match use.saved? d with
  | some _ => False
  | none => was ∨ Damaged storage (use.others d) (next d use)

/-- Whether the stored document is damaged after a history. -/
def damagedBy : Disk → Prop → List (Use storage) → Prop
  | _, was, [] => was
  | d, was, use :: history => damagedBy (next d use) (use.damages d was) history

/-- The disk gives back the settings that were saved last, unless the document was damaged. -/
structure Remembers (storage : Storage) (d : Disk) (persisted : Settings) (damaged : Prop) :
    Prop where
  placed : Placed storage d
  loaded : ¬ damaged → storage.load d = .ok persisted
  /-- Damaged or not, nothing else is loaded. -/
  leaves : Leaves storage d (· = persisted)

variable {damaged : Prop}

/-- What others do leaves the document. -/
theorem document_others (placed : Placed storage d) (use : Use storage) :
    storage.document (use.others d) = storage.document d :=
  Storage.document_congr (placed.get_apart (use.apart d placed.sound))

theorem load_others (placed : Placed storage d) (use : Use storage) :
    storage.load (use.others d) = storage.load d :=
  Storage.load_congr (document_others placed use)

/-- One use of the program. -/
theorem settles (placed : Placed storage d) (use : Use storage) :
    Command.Settles storage (use.others d) use.command.saves (use.run d).result
      (next d use) := by
  have placed' : Placed storage (World.mk (use.others d) use.supply).disk :=
    placed.apart (use.apart d placed.sound)
  exact Command.settles_run placed' use.ask use.command

theorem Remembers.next (remembers : Remembers storage d persisted damaged) (use : Use storage) :
    Remembers storage (next d use) ((use.saved? d).getD persisted) (use.damages d damaged) := by
  have placed := remembers.placed
  have leaves := remembers.leaves.congr (document_others placed use)
  have stores : Stores storage (use.others d) (use.saved? d) (Use.next d use) :=
    (use.settles placed).stores
  unfold damages
  cases saved : use.saved? d with
  | some s =>
      rw [saved] at stores
      have loaded := stores.loaded nofun
      exact ⟨stores.placed, fun _ => loaded, Storage.leaves_of_load loaded rfl⟩
  | none =>
      rw [saved] at stores
      refine ⟨stores.placed, fun sound => ?_, stores.leaves leaves nofun⟩
      rw [not_or] at sound
      rw [stores.loaded fun _ => sound.2]
      exact (load_others placed use).trans (remembers.loaded sound.1)

/-- A whole history. -/
theorem Remembers.after : ∀ (history : List (Use storage)) {d : Disk} {persisted : Settings}
    {damaged : Prop}, Remembers storage d persisted damaged →
      Remembers storage (after d history) (lastSaved d persisted history)
        (damagedBy d damaged history)
  | [], _, _, _, remembers => remembers
  | use :: history, _, _, _, remembers => Remembers.after history (remembers.next use)

/-- **The successful saves alone decide what a history persists.**  After any history the
settings of its last successful save are loaded, unless a write to the document was cut off since
then; and even so no others are.  A further command that succeeds returns what is loaded then, and
one that fails or was not asked to save leaves it as it was, if its own write is not cut off. -/
theorem persisted_by_saves (sound : d.Sound) (rooted : Rooted storage d)
    (loaded : storage.load d = .ok persisted) (history : List (Use storage)) :
    let now := after d history
    let damaged := damagedBy d False history
    (¬ damaged → storage.load now = .ok (lastSaved d persisted history)) ∧
      (∀ s, storage.load now = .ok s → s = lastSaved d persisted history) ∧
      ∀ use : Use storage,
        (¬ damaged ∨ use.command.saves = true →
          ∀ s, (use.run now).result = .ok s → storage.load (next now use) = .ok s) ∧
        (use.command.saves = false ∨ (∃ e, (use.run now).result = .error e) →
          ¬ Damaged storage (use.others now) (next now use) →
          storage.load (next now use) = storage.load now) := by
  intro now damaged
  have placed := Storage.placed_of_load sound rooted loaded
  have first : Remembers storage d persisted False :=
    ⟨placed, fun _ => loaded, Storage.leaves_of_load loaded rfl⟩
  have remembers : Remembers storage now (lastSaved d persisted history) damaged :=
    first.after history
  refine ⟨remembers.loaded, fun _ => remembers.leaves.of_load, fun use => ?_⟩
  have settled := use.settles remembers.placed
  have same := load_others remembers.placed use
  refine ⟨fun reliable s succeeded => ?_, fun quiet undamaged => ?_⟩
  · have stores := settled.stores
    cases saves : use.command.saves with
    | true =>
        rw [saves, succeeded] at stores
        exact stores.loaded nofun
    | false =>
        have undamaged : ¬ damaged := reliable.resolve_right (by simp [saves])
        have before := same.trans (remembers.loaded undamaged)
        rw [saves] at stores
        rw [stores.loaded fun _ damaged => settled.uncut s succeeded damaged.1]
        exact before.trans (congrArg _ (settled.effective saves s succeeded _ before))
  · have unsaved : (if use.command.saves then (use.run now).result.toOption else none) = none := by
      rcases quiet with unasked | ⟨e, failed⟩
      · rw [unasked]
        rfl
      · rw [failed]
        exact ite_self _
    have stores := settled.stores
    rw [unsaved] at stores
    exact (stores.loaded fun _ => undamaged).trans same

/-! ## Steady disks -/

/-- Where the others leave nothing to be stopped, nothing is damaged. -/
theorem not_damagedBy : ∀ (history : List (Use storage)) {d : Disk} {was : Prop},
    (∀ use ∈ history, ∀ d, (use.others d).Steady) → ¬ was → ¬ damagedBy d was history
  | [], _, _, _, undamaged => undamaged
  | use :: history, d, was, steady, undamaged => by
      refine not_damagedBy history (fun other member => steady other (.tail _ member)) ?_
      unfold damages
      split
      · exact id
      · rw [not_or]
        exact ⟨undamaged, fun damaged => (steady use (.head _) d).not_cutOff damaged.1⟩

/-- A use that meets nobody else and a theme service without palettes, with what the system does
to its writes. -/
def alone (storage : Storage) (stops : List (Option Disk.Stop)) (command : Command) :
    Use storage where
  command := command
  ask := Session.noPalettes
  supply := Session.unused
  others d := d.withStops stops
  apart := fun _ sound => ⟨sound.withStops stops, rfl, fun _ _ => rfl⟩

theorem steady_alone (storage : Storage) (command : Command) (d : Disk) :
    ((alone storage [] command).others d).Steady :=
  List.forall_mem_nil _

/-- An accent is added and saved, another one is added for nothing, and the saved document is
exported over itself. -/
def accentHistory : List (Use ⟨"notes/theme"⟩) :=
  [alone _ [] (.addAccent "#fff" true), alone _ [] (.addAccent "#000" false),
   alone _ [] (.exportTo "notes/theme")]

theorem lastSaved_accentHistory :
    lastSaved (Disk.blank ["home"]) .default accentHistory = Session.withAccent := rfl

/-- The history leaves the accent that was saved, and showing it changes nothing. -/
theorem persisted_accentHistory :
    (Disk.blank ["home"]).Sound ∧ Rooted ⟨"notes/theme"⟩ (Disk.blank ["home"]) ∧
      (Storage.mk "notes/theme").load (Disk.blank ["home"]) = .ok .default ∧
      (Storage.mk "notes/theme").load (after (Disk.blank ["home"]) accentHistory) =
        .ok Session.withAccent ∧
      (Storage.mk "notes/theme").load
          (next (after (Disk.blank ["home"]) accentHistory) (alone ⟨"notes/theme"⟩ [] .show)) =
        .ok Session.withAccent := by
  have sound : (Disk.blank ["home"]).Sound := Disk.sound_blank ["home"]
  have rooted : Rooted ⟨"notes/theme"⟩ (Disk.blank ["home"]) :=
    ⟨by decide, .inr ⟨by decide, by decide⟩⟩
  have loaded : (Storage.mk "notes/theme").load (Disk.blank ["home"]) = .ok .default := rfl
  obtain ⟨saved, -, further⟩ := persisted_by_saves sound rooted loaded accentHistory
  have steady : ∀ use ∈ accentHistory, ∀ d, (use.others d).Steady := by
    simp only [accentHistory, List.forall_mem_cons]
    exact ⟨steady_alone _ _, steady_alone _ _, steady_alone _ _, List.forall_mem_nil _⟩
  have saved' := saved (not_damagedBy accentHistory steady id)
  rw [lastSaved_accentHistory] at saved'
  obtain ⟨-, unchanged⟩ := further (alone _ [] .show)
  have shown := unchanged (.inl rfl) fun damaged =>
    (steady_alone _ .show _).not_cutOff damaged.1
  exact ⟨sound, rooted, loaded, saved', shown.trans saved'⟩

/-! ## Saves that fail -/

/-- A command that sets a color and saves it ends with the save of a session on its disk. -/
theorem set_of_save {stops : List (Option Disk.Stop)}
    (loaded : storage.load (d.withStops stops) = .ok persisted) (role : ColorRole) {value : String}
    (accepted : Input.checkColor value = .ok ())
    (fails : ∀ s : Session, s.storage = storage → s.world.disk = d.withStops stops →
      (∃ e, s.save.result = .error e) ∧
        ∀ t, s.storage.load s.save.session.world.disk ≠ .ok t) :
    let use := alone storage stops (.set role value true)
    (∃ e, (use.run d).result = .error e) ∧ ∀ t, storage.load (next d use) ≠ .ok t := by
  intro use
  let start := Session.start storage ⟨d.withStops stops, Session.unused⟩ persisted
  let edited := start.setColor role value
  have changed : edited = start.change fun t => (t.setColor role ⟨value⟩, ()) := by
    simp only [edited, Session.setColor, accepted]
  have succeeded : edited.result = .ok () := congrArg Step.result changed
  obtain ⟨on, disk, -⟩ := (Session.bound_setColor start role value).sameBase
  obtain ⟨⟨e, failed⟩, unloaded⟩ := fails edited.session on disk
  have opened : (use.command.openSession storage ⟨d.withStops stops, Session.unused⟩).1 =
      .ok start := Command.openSession_of_load _ loaded
  obtain ⟨result, world⟩ := Command.run_of_opened use.ask opened
  obtain ⟨ends, left⟩ := Command.after_of_ok succeeded true fun _ _ => ""
  have closed := Session.close_of_error failed
  have now : next d use = edited.session.save.session.world.disk :=
    congrArg World.disk (world.trans left)
  refine ⟨⟨e, result.trans (ends.trans closed)⟩, fun t => ?_⟩
  rw [now]
  rw [on] at unloaded
  exact unloaded t

/-- **A command that fails may leave settings that cannot be loaded**, on a root with a name that is
too long and on a disk that is full. -/
theorem unreadable_after_failed_command :
    (let storage := Storage.below "a" (Session.letters 256)
    let d := Disk.blank ["home"]
    let use := alone storage [] (.set .selected "red" true)
    d.Sound ∧ ".." ∉ Disk.segments storage.root ∧
      Storage.exportName ∉ Disk.segments storage.root ∧ storage.load d = .ok .default ∧
      (∃ e, (use.run d).result = .error e) ∧ storage.load (next d use) ≠ storage.load d) ∧
    let storage : Storage := ⟨"theme"⟩
    let d := Session.holding "[]".toUTF8
    let use := alone storage [some (.full 0 Disk.noSpace)] (.set .selected "red" true)
    d.Sound ∧ Rooted storage d ∧ storage.load d = .ok .default ∧
      (∃ e, (use.run d).result = .error e) ∧ storage.load (next d use) ≠ storage.load d := by
  have accepted : Input.checkColor "red" = .ok () := rfl
  constructor
  · intro storage d use
    have tooLong : TooLong "a" (Session.letters 256) :=
      Session.tooLong_letters (by decide) (by decide)
    have sound : d.Sound := Disk.sound_blank ["home"]
    have gone : d.node? (d.current ++ ["a"]) = none := rfl
    obtain ⟨down, other⟩ := Storage.names_below tooLong (by decide)
    have loaded : storage.load d = .ok .default := Storage.load_of_missing tooLong sound gone
    obtain ⟨failed, unreadable⟩ := set_of_save
      ((Storage.load_withStops [] storage d).trans loaded) .selected accepted fun s on disk =>
        Session.save_of_tooLong tooLong on (disk ▸ sound.withStops _) (disk ▸ gone)
    refine ⟨sound, down, other, loaded, failed, ?_⟩
    rw [loaded]
    exact unreadable _
  · intro storage d use
    have sound : d.Sound := Session.sound_holding _
    have rooted : Rooted storage d := ⟨by decide, .inr ⟨by decide, by decide⟩⟩
    have loaded : storage.load d = .ok .default := Session.load_holding rfl
    have held : storage.content d = some "[]".toUTF8 := Session.content_holding _
    obtain ⟨failed, unreadable⟩ := set_of_save
      ((Storage.load_withStops _ storage d).trans loaded) .selected accepted fun s on disk =>
        Session.save_of_full (on ▸ disk ▸ (Storage.content_withStops _ storage d).trans held)
          (disk ▸ Disk.stops_withStops d _)
    refine ⟨sound, rooted, loaded, failed, ?_⟩
    rw [loaded]
    exact unreadable _

end Use

end ThemeEditor
