/-
# ThemeEditor.Proofs.Config.Once -- the first configuration is written once

What writing a first configuration does is one of five things (`Creates`): its directory
cannot be made, something is there, it is written, or it cannot be, or only a beginning of
it is.  Whatever the path is, nothing that was on the disk is altered or removed
(`Creates.kept`), something at the path is left alone with all the rest of the disk
(`create_of_at`), and a failure leaves nothing there (`Creates.not_at_of_error`) unless
the write was cut off (`Creates.at_of_cut`).  That something is found only where it was
before needs a path that does not lead up again, out of a directory that was just made
(`Creates.at_of_found`).

Once the configuration is there, edits of its file and further attempts follow one another
(`Event`).  None of them takes it away, and each attempt finds what was edited last
(`at_after`, `file_after`).

`written_once` is all of it.  A path that is too long for the disk leads nowhere, even
if its names lead to a file (`not_written_once`).
-/
import ThemeEditor.Config.Create
import ThemeEditor.Proofs.Config.Find
import ThemeEditor.Proofs.Disk.Added
import ThemeEditor.Proofs.Disk.Presence

namespace ThemeEditor.Config

set_option autoImplicit false

open Disk (Added Beginning CutOff Entry Grown Location Standing Stop join segments)

variable {d d' : Disk} {directory : String} {entry : Entry} {bytes : ByteArray}

/-! ## What may happen -/

/-- What writing the first configuration into a directory comes to. -/
inductive Creates (d : Disk) (directory : String) : Except CreateError Created × Disk → Prop where
  /-- The directory cannot be made. -/
  | stuck {f : Disk.Fault} {between : Disk}
      (stuck : ensureDirectory d directory = (.error f, between)) :
      Creates d directory (.error (.createDirectory directory f), between)
  /-- Something is there. -/
  | found {between : Disk} (ready : ensureDirectory d directory = (.ok (), between))
      (there : ∃ entry, between.At (join directory "config.toml") entry) :
      Creates d directory (.ok ⟨join directory "config.toml", false⟩, between)
  /-- Nothing is there, and the configuration is written. -/
  | written {between d' : Disk} {stops : List (Option Stop)}
      (ready : ensureDirectory d directory = (.ok (), between))
      (absent : ∀ entry, ¬ between.At (join directory "config.toml") entry)
      (uncut : ¬ CutOff between (between.withStops stops))
      (written : (between.withStops stops).writeBytes (join directory "config.toml")
        defaultText.toUTF8 = .ok d') :
      Creates d directory (.ok ⟨join directory "config.toml", true⟩, d')
  /-- Nothing is there, and nothing can be written. -/
  | refused {f : Disk.Fault} {between : Disk} {stops : List (Option Stop)}
      (ready : ensureDirectory d directory = (.ok (), between))
      (absent : ∀ entry, ¬ between.At (join directory "config.toml") entry)
      (uncut : ¬ CutOff between (between.withStops stops))
      (refused : (between.writeText (join directory "config.toml") defaultText).1 = .error f) :
      Creates d directory
        (.error (.writeFile (join directory "config.toml") f), between.withStops stops)
  /-- Nothing is there, and only a beginning is written. -/
  | cut {f : Disk.Fault} {between d' : Disk} {stops : List (Option Stop)} {part : ByteArray}
      (ready : ensureDirectory d directory = (.ok (), between))
      (absent : ∀ entry, ¬ between.At (join directory "config.toml") entry)
      (isCut : CutOff between (between.withStops stops)) (beginning : Beginning part defaultText)
      (written : (between.withStops stops).writeBytes (join directory "config.toml") part =
        .ok d') :
      Creates d directory (.error (.writeFile (join directory "config.toml") f), d')

theorem creates (d : Disk) (directory : String) : Creates d directory (create d directory) := by
  unfold create
  split
  · next stuck => exact .stuck stuck
  · next between ready =>
    dsimp only
    split
    · next there => exact .found ready (Disk.exists?_iff.1 there)
    · next missing =>
      have absent : ∀ entry, ¬ between.At (join directory "config.toml") entry :=
        fun entry there => missing (Disk.exists?_iff.2 ⟨entry, there⟩)
      have wrote := Disk.wrote_writeText between (join directory "config.toml") defaultText
      generalize writing : between.writeText (join directory "config.toml") defaultText = result
        at wrote ⊢
      cases wrote with
      | refused f suffix uncut => exact .refused ready absent uncut (congrArg Prod.fst writing)
      | whole suffix uncut written => exact .written ready absent uncut written
      | cut f suffix isCut beginning written => exact .cut ready absent isCut beginning written

/-! ## The directory -/

section

variable {answer : Except Disk.Fault Unit} (ready : ensureDirectory d directory = (answer, d'))

include ready

theorem added_of_ready : Added d d' := by
  have same : (ensureDirectory d directory).2 = d' := by rw [ready]
  rw [← same, ensureDirectory]
  split
  · exact Disk.added_self d
  · exact Disk.added_makeDirectories directory

theorem grown_of_ready (sound : d.Sound) (down : ".." ∉ segments directory) :
    Grown d d' (d.spelled directory) := by
  have same : (ensureDirectory d directory).2 = d' := by rw [ready]
  rw [← same, ensureDirectory]
  split
  · exact sound.grown_self _
  · exact Disk.grown_makeDirectories sound down

end

/-- A directory that is there is not made, so nothing goes wrong. -/
theorem makeDirectories_of_stuck {f : Disk.Fault}
    (stuck : ensureDirectory d directory = (.error f, d')) :
    d.makeDirectories directory = (.error f, d') := by
  unfold ensureDirectory at stuck
  split at stuck
  · cases stuck
  · exact stuck

/-- Where the configuration is, its directory is left alone. -/
theorem ensureDirectory_of_at (there : d.At (join directory "config.toml") entry) :
    ensureDirectory d directory = (.ok (), d) := by
  unfold ensureDirectory
  split
  · rfl
  · exact Disk.makeDirectories_of_at isName_standard there

/-- A directory that can be made stands when the configuration is looked for in it. -/
theorem standing_ensureDirectory (sound : d.Sound) (down : ".." ∉ segments directory)
    (makeable : (d.makeDirectories directory).1 = .ok ()) :
    Standing (ensureDirectory d directory).2 directory := by
  have standing := Disk.standing_of_made sound down makeable
  unfold ensureDirectory
  split
  · next there =>
    obtain ⟨entry, location, route, read, led, found, -⟩ := Disk.exists?_iff.1 there
    obtain ⟨steps, start⟩ := Disk.ofPath_ok (d := d) read
    have toRoute : d.walk (d.start directory) (segments directory) = .ok route := by
      rw [← steps, ← start]
      exact led
    obtain ⟨same, -⟩ := Disk.walk_ok down toRoute
    -- what is there is a directory, because it is one after making it
    have grown := Disk.grown_makeDirectories sound down
    have isDirectory := standing.isDirectory
    rw [Disk.spelled_congr grown.current, Disk.spelled, ← same,
      grown.kept (by simp [found])] at isDirectory
    exact ⟨standing.plain, by rw [Disk.spelled, ← same, isDirectory]⟩
  · exact standing

/-! ## One attempt -/

/-- Something at the path is left alone, with all the rest of the disk. -/
theorem create_of_at (there : d.At (join directory "config.toml") entry) :
    create d directory = (.ok ⟨join directory "config.toml", false⟩, d) := by
  have found : d.exists? (join directory "config.toml") = true := Disk.exists?_iff.2 ⟨entry, there⟩
  unfold create
  rw [ensureDirectory_of_at there]
  dsimp only
  rw [if_pos found]

/-- A file that is written where nothing lay is new, whatever stops the next writes. -/
theorem fresh_of_absent {stops : List (Option Stop)}
    (absent : ∀ entry, ¬ d.At (join directory "config.toml") entry)
    (written : (d.withStops stops).writeBytes (join directory "config.toml") bytes = .ok d') :
    ∃ route, d.node? route = none ∧ d' = (d.withStops stops).put route (.file bytes) :=
  Disk.fresh_of_writeBytes (fun entry there => absent entry ((Disk.at_withStops _ _ _ _).1 there))
    written

namespace Creates

variable {attempt : Except CreateError Created × Disk} (created : Creates d directory attempt)

include created

/-- Nothing is altered or removed. -/
theorem kept {route : Disk.Route} (present : d.node? route = some entry) :
    attempt.2.node? route = some entry := by
  cases created with
  | stuck stuck => exact (added_of_ready stuck).kept present
  | found ready there => exact (added_of_ready ready).kept present
  | @written between _ stops ready absent uncut written =>
      obtain ⟨file, missing, rfl⟩ := fresh_of_absent absent written
      exact Disk.kept_put (d := between.withStops stops) missing _
        ((added_of_ready ready).kept present)
  | refused ready absent refused => exact (added_of_ready ready).kept present
  | @cut _ between _ stops _ ready absent isCut beginning written =>
      obtain ⟨file, missing, rfl⟩ := fresh_of_absent absent written
      exact Disk.kept_put (d := between.withStops stops) missing _
        ((added_of_ready ready).kept present)

/-- What is found was there before, unless the path leads up again. -/
theorem at_of_found (sound : d.Sound) (down : ".." ∉ segments directory) {path : String}
    (isOld : attempt.1 = .ok ⟨path, false⟩) :
    ∃ entry, d.At (join directory "config.toml") entry := by
  cases created with
  | found ready there =>
      obtain ⟨entry, there⟩ := there
      have grown := grown_of_ready ready sound down
      exact ⟨entry, Disk.at_of_grown isName_standard sound down grown there⟩
  | stuck stuck => cases isOld
  | written ready absent uncut written => cases isOld
  | refused ready absent uncut refused => cases isOld
  | cut ready absent isCut beginning written => cases isOld

/-- What is new are the defaults. -/
theorem at_of_isNew {path : String} (isNew : attempt.1 = .ok ⟨path, true⟩) :
    attempt.2.At (join directory "config.toml") (.file defaultText.toUTF8) := by
  cases created with
  | written ready absent uncut written => exact Disk.at_of_writeBytes written
  | stuck stuck => cases isNew
  | found ready there => cases isNew
  | refused ready absent uncut refused => cases isNew
  | cut ready absent isCut beginning written => cases isNew

/-- After a success something is there. -/
theorem at_of_ok {c : Created} (done : attempt.1 = .ok c) :
    c.path = join directory "config.toml" ∧
      ∃ entry, attempt.2.At (join directory "config.toml") entry := by
  cases created with
  | found ready there =>
      cases done
      exact ⟨rfl, there⟩
  | written ready absent uncut written =>
      cases done
      exact ⟨rfl, _, Disk.at_of_writeBytes written⟩
  | stuck stuck => cases done
  | refused ready absent uncut refused => cases done
  | cut ready absent isCut beginning written => cases done

/-- After a failure nothing is there, and there is no new file anywhere, unless the write was cut
off. -/
theorem not_at_of_error {e : CreateError} (failed : attempt.1 = .error e)
    (uncut : ¬ CutOff d attempt.2) :
    (∀ entry, ¬ attempt.2.At (join directory "config.toml") entry) ∧
      ∀ route bytes, attempt.2.node? route = some (.file bytes) →
        d.node? route = some (.file bytes) := by
  cases created with
  | stuck stuck =>
      have unmade := makeDirectories_of_stuck stuck
      exact ⟨fun entry => Disk.not_at_of_makeDirectories_error isName_standard unmade,
        fun route bytes => (added_of_ready stuck).file⟩
  | refused ready absent _ refused =>
      exact ⟨fun entry there => absent entry ((Disk.at_withStops _ _ _ _).1 there),
        fun route bytes => (added_of_ready ready).file⟩
  | found ready there => cases failed
  | written ready absent _ written => cases failed
  | cut ready absent isCut beginning written =>
      rw [CutOff, Disk.stops_writeBytes written, ← (added_of_ready ready).stops] at uncut
      exact absurd isCut uncut

/-- Where the write was cut off nothing was, and a beginning of the defaults is the one new file. -/
theorem at_of_cut (isCut : CutOff d attempt.2) :
    (∃ e, attempt.1 = .error e) ∧
      (∀ entry, ¬ d.At (join directory "config.toml") entry) ∧
      ∃ part, Beginning part defaultText ∧
        attempt.2.At (join directory "config.toml") (.file part) ∧
        ∀ route bytes, attempt.2.node? route = some (.file bytes) →
          d.node? route = some (.file bytes) ∨ bytes = part := by
  cases created with
  | stuck stuck => exact absurd isCut (Disk.not_cutOff_of_stops (added_of_ready stuck).stops)
  | found ready there => exact absurd isCut (Disk.not_cutOff_of_stops (added_of_ready ready).stops)
  | written ready absent uncut written =>
      rw [CutOff, Disk.stops_writeBytes written, ← (added_of_ready ready).stops] at isCut
      exact absurd isCut uncut
  | refused ready absent uncut refused =>
      rw [CutOff, ← (added_of_ready ready).stops] at isCut
      exact absurd isCut uncut
  | @cut f between _ stops part ready absent _ beginning written =>
      refine ⟨⟨_, rfl⟩, fun entry there => ?_, part, beginning, Disk.at_of_writeBytes written,
        fun route bytes file => ?_⟩
      · rw [ensureDirectory_of_at there] at ready
        cases ready
        exact absent entry there
      · obtain ⟨place, missing, rfl⟩ := fresh_of_absent absent written
        have notRoot : place ≠ [] := by
          rintro rfl
          cases missing
        dsimp only at file
        rw [Disk.node?_put notRoot] at file
        split at file
        · exact .inr (Entry.file.inj (Option.some.inj file)).symm
        · exact .inl ((added_of_ready ready).file file)

/-- In a directory that is there or can be made, an attempt succeeds unless the path is too long or
the write is stopped. -/
theorem exists_ok (sound : d.Sound) (down : ".." ∉ segments directory) (unstopped : d.Ready)
    (makeable : (d.makeDirectories directory).1 = .ok ())
    (readable : ∃ location, Location.ofPath (join directory "config.toml") = .ok location) :
    ∃ c, attempt.1 = .ok c := by
  have standing := standing_ensureDirectory sound down makeable
  cases created with
  | stuck stuck =>
      rw [makeDirectories_of_stuck stuck] at makeable
      cases makeable
  | found ready there => exact ⟨_, rfl⟩
  | written ready absent uncut written => exact ⟨_, rfl⟩
  | cut ready absent isCut beginning written =>
      rw [CutOff, (added_of_ready ready).stops] at isCut
      exact absurd isCut unstopped.not_cutOff
  | @refused f between stops ready absent uncut refused =>
      have grown := grown_of_ready ready sound down
      have unstopped' : between.Ready := by
        rw [Disk.Ready, (added_of_ready ready).stops]
        exact unstopped
      rw [ready] at standing
      obtain ⟨location, read⟩ := readable
      have led := standing.walk_name grown.sound isName_standard (by decide)
      have free : between.node? (between.spelled directory ++ ["config.toml"]) ≠
          some .directory := by
        intro isDirectory
        exact absent .directory
          ((Disk.at_join_iff isName_standard).2 ⟨⟨location, read⟩, _, led, isDirectory⟩)
      have written : between.writeBytes (join directory "config.toml") defaultText.toUTF8 = .ok _ :=
        Disk.writeBytes_of_standing standing grown.sound isName_standard (by decide) read free _
      rw [Disk.writeText_of_ready unstopped' written] at refused
      cases refused

end Creates

/-! ## Edits and further attempts -/

/-- What may happen once a configuration is there: its file is edited, or the first one is to be
written again. -/
inductive Event where
  | edit (bytes : ByteArray)
  | create

namespace Event

/-- The disk after an event. -/
def perform (directory : String) (d : Disk) : Event → Disk
  | edit bytes => ((d.writeBytes (join directory "config.toml") bytes).toOption).getD d
  | create => (Config.create d directory).2

/-- What a file holds after an event. -/
def content (bytes : ByteArray) : Event → ByteArray
  | edit bytes => bytes
  | create => bytes

/-- The disk after some events. -/
def after (directory : String) (d : Disk) (events : List Event) : Disk :=
  events.foldl (perform directory) d

/-- What a file holds after some events: what it was edited to last. -/
def edited (bytes : ByteArray) (events : List Event) : ByteArray :=
  events.foldl content bytes

theorem at_perform (event : Event)
    (there : ∃ entry, d.At (join directory "config.toml") entry) :
    ∃ entry, (event.perform directory d).At (join directory "config.toml") entry := by
  cases event with
  | create =>
      obtain ⟨entry, there⟩ := there
      rw [perform, create_of_at there]
      exact ⟨entry, there⟩
  | edit bytes =>
      cases written : d.writeBytes (join directory "config.toml") bytes with
      | error f =>
          rw [perform, written]
          exact there
      | ok d' =>
          rw [perform, written]
          exact ⟨_, Disk.at_of_writeBytes written⟩

theorem file_perform (event : Event)
    (there : d.At (join directory "config.toml") (.file bytes)) :
    (event.perform directory d).At (join directory "config.toml") (.file (event.content bytes)) := by
  cases event with
  | create =>
      rw [perform, create_of_at there]
      exact there
  | edit bytes' =>
      obtain ⟨d', written, there'⟩ := Disk.at_overwritten isName_standard there bytes'
      rw [perform, written]
      exact there'

/-- Nothing that happens takes the configuration away. -/
theorem at_after : ∀ (events : List Event) {d : Disk},
    (∃ entry, d.At (join directory "config.toml") entry) →
      ∃ entry, (after directory d events).At (join directory "config.toml") entry
  | [], _, there => there
  | event :: events, _, there => at_after events (event.at_perform there)

/-- The file holds what it was edited to last. -/
theorem file_after : ∀ (events : List Event) {d : Disk} {bytes : ByteArray},
    d.At (join directory "config.toml") (.file bytes) →
      (after directory d events).At (join directory "config.toml") (.file (edited bytes events))
  | [], _, _, there => there
  | event :: events, _, _, there => file_after events (event.file_perform there)

end Event

/-! ## All of it -/

/-- What an attempt to write the first configuration comes to, with its result and the disk after
it. -/
structure WrittenOnce (d : Disk) (directory : String) (result : Except CreateError Created)
    (after : Disk) : Prop where
  /-- No file is altered, and nothing is removed. -/
  kept : ∀ route entry, d.node? route = some entry → after.node? route = some entry
  path : ∀ c, result = .ok c → c.path = join directory "config.toml"
  /-- It is new only where nothing was, and then it holds the defaults. -/
  isNew : result = .ok ⟨join directory "config.toml", true⟩ →
    (∀ entry, ¬ d.At (join directory "config.toml") entry) ∧
      after.At (join directory "config.toml") (.file defaultText.toUTF8)
  /-- It is not new exactly where something was, and then nothing on the disk changes. -/
  isOld : result = .ok ⟨join directory "config.toml", false⟩ ↔
    ∃ entry, d.At (join directory "config.toml") entry
  unchanged : result = .ok ⟨join directory "config.toml", false⟩ → after = d
  /-- Once it was there, each later attempt finds it, whatever was made of it in between, and leaves
  it as it is. -/
  found : (∃ c, result = .ok c) → ∀ events,
    create (Event.after directory after events) directory =
        (.ok ⟨join directory "config.toml", false⟩, Event.after directory after events) ∧
      ∀ bytes, after.At (join directory "config.toml") (.file bytes) →
        (Event.after directory after events).At (join directory "config.toml")
          (.file (Event.edited bytes events))
  /-- Where it fails nothing is there, and there is no new file anywhere, unless the write was cut
  off. -/
  failed : (∃ e, result = .error e) → ¬ CutOff d after →
    (∀ entry, ¬ after.At (join directory "config.toml") entry) ∧
      ∀ route bytes, after.node? route = some (.file bytes) → d.node? route = some (.file bytes)
  /-- Then it fails, nothing was there, and a beginning of the defaults is the one new file. -/
  cut : CutOff d after → (∃ e, result = .error e) ∧
    (∀ entry, ¬ d.At (join directory "config.toml") entry) ∧
      ∃ part, Beginning part defaultText ∧ after.At (join directory "config.toml") (.file part) ∧
        ∀ route bytes, after.node? route = some (.file bytes) →
          d.node? route = some (.file bytes) ∨ bytes = part
  /-- It does not fail where its directory is or can be made, unless its path is too long or the
  write is stopped. -/
  succeeds : d.Ready → (d.makeDirectories directory).1 = .ok () →
    (∃ location, Location.ofPath (join directory "config.toml") = .ok location) →
      ∃ c, result = .ok c

/-- **The first configuration is written once.**  For every sound disk and every directory whose
path does not lead up: what is on the disk stays, the configuration is new only where nothing was,
and it is found exactly where something is, from then on also after any edits.  Where it cannot be
written there is none, or a beginning of it if the write is cut off. -/
theorem written_once (sound : d.Sound) (down : ".." ∉ segments directory) :
    WrittenOnce d directory (create d directory).1 (create d directory).2 where
  kept _ _ := (creates d directory).kept
  path _ done := ((creates d directory).at_of_ok done).1
  isNew := by
    intro isNew
    refine ⟨fun entry there => ?_, (creates d directory).at_of_isNew isNew⟩
    rw [create_of_at there] at isNew
    cases isNew
  isOld := by
    constructor
    · exact (creates d directory).at_of_found sound down
    · rintro ⟨entry, there⟩
      rw [create_of_at there]
  unchanged := by
    intro isOld
    obtain ⟨entry, there⟩ := (creates d directory).at_of_found sound down isOld
    rw [create_of_at there]
  found := by
    rintro ⟨c, done⟩ events
    obtain ⟨entry, there⟩ := Event.at_after events ((creates d directory).at_of_ok done).2
    exact ⟨create_of_at there, fun bytes file => Event.file_after events file⟩
  failed := by
    rintro ⟨e, failed⟩
    exact (creates d directory).not_at_of_error failed
  cut := (creates d directory).at_of_cut
  succeeds := (creates d directory).exists_ok sound down

/-- A configuration is written below directories that were missing, edited, and found then. -/
theorem written_once_edited :
    let d := Disk.blank ["home"]
    let made := (create d "nested/palette-studio").2
    let edited := Event.after "nested/palette-studio" made
      [.edit "theme_file_count = 3\n".toUTF8, .create]
    d.Sound ∧ ".." ∉ segments "nested/palette-studio" ∧
      (create d "nested/palette-studio").1 =
        .ok ⟨"nested/palette-studio/config.toml", true⟩ ∧
      made.At "nested/palette-studio/config.toml" (.file defaultText.toUTF8) ∧
      create edited "nested/palette-studio" =
        (.ok ⟨"nested/palette-studio/config.toml", false⟩, edited) ∧
      edited.At "nested/palette-studio/config.toml" (.file "theme_file_count = 3\n".toUTF8) := by
  intro d made edited
  have down : ".." ∉ segments "nested/palette-studio" := by decide
  have isNew : (create d "nested/palette-studio").1 =
      .ok ⟨"nested/palette-studio/config.toml", true⟩ := by rfl
  have once := written_once (Disk.sound_blank ["home"]) down
  obtain ⟨-, there⟩ := once.isNew isNew
  obtain ⟨again, content⟩ := once.found ⟨_, isNew⟩ [.edit "theme_file_count = 3\n".toUTF8, .create]
  exact ⟨Disk.sound_blank ["home"], down, isNew, there, again, content _ there⟩

/-! ## Paths that are too long, and disks that are full -/

/-- A path that stays in a directory `n` times. -/
def dotted : Nat → String
  | 0 => "a"
  | n + 1 => dotted n ++ "/" ++ "."

theorem segments_dotted (n : Nat) : segments (dotted n) = ["a"] := by
  induction n with
  | zero => decide
  | succ n ih =>
      have stays : segments "." = [] := by decide
      rw [dotted, Disk.segments_slash, ih, stays, List.append_nil]

theorem relative_dotted (n : Nat) : (dotted n).toList.head? = some 'a' := by
  induction n with
  | zero => decide
  | succ n ih =>
      rw [dotted, String.append_assoc, String.toList_append, List.head?_append, ih]
      rfl

theorem noNul_dotted (n : Nat) : '\x00' ∉ (dotted n).toList := by
  induction n with
  | zero => decide
  | succ n ih =>
      rw [dotted, String.append_assoc, String.toList_append, List.mem_append, not_or]
      exact ⟨ih, by decide⟩

theorem size_dotted (n : Nat) : (dotted n).utf8ByteSize = 2 * n + 1 := by
  induction n with
  | zero => decide
  | succ n ih =>
      have two : ("/" ++ ".").utf8ByteSize = 2 := by decide
      rw [dotted, String.append_assoc, String.utf8ByteSize_append, ih, two]
      omega

/-- A directory with a path that is too long is neither found nor made. -/
theorem create_of_long {n : Nat} (long : Disk.maxPathSize < 2 * n + 1) (d : Disk) :
    create d (dotted n) = (.error (.createDirectory (dotted n) .nameTooLong), d) := by
  have refused : Location.ofPath (dotted n) = .error .nameTooLong :=
    Disk.ofPath_of_long (noNul_dotted n) (size_dotted n ▸ long)
  have missing : d.exists? (dotted n) ≠ true := by
    rw [Ne, Disk.exists?_iff]
    rintro ⟨entry, location, route, read, -⟩
    cases refused.symm.trans read
  have named : dotted n ≠ "" := by
    intro empty
    have size := size_dotted n
    rw [empty] at size
    cases size
  have unmade : d.makeDirectories (dotted n) = (.error .nameTooLong, d) := by
    rw [Disk.makeDirectories, if_neg named, refused]
  rw [create, ensureDirectory, if_neg missing, unmade]

/-- A disk with a configuration in a directory. -/
def configuredDisk : Disk :=
  ((Disk.blank ["home"]).put ["home", "a"] .directory).put ["home", "a", "config.toml"]
    (.file "theme_file_count = 3\n".toUTF8)

theorem sound_configuredDisk : configuredDisk.Sound := by
  have directory : ((Disk.blank ["home"]).put (["home"] ++ ["a"]) .directory).Sound :=
    (Disk.sound_blank ["home"]).put rfl (by decide) .directory
  have file : (((Disk.blank ["home"]).put ["home", "a"] .directory).put
      (["home", "a"] ++ ["config.toml"]) (.file "theme_file_count = 3\n".toUTF8)).Sound :=
    directory.put rfl (by decide) _
  exact file

/-- The names of the long path lead to the configuration. -/
theorem walk_dotted (n : Nat) :
    configuredDisk.walk (configuredDisk.start (dotted n)) (segments (dotted n) ++ ["config.toml"]) =
      .ok ["home", "a", "config.toml"] := by
  have start : configuredDisk.start (dotted n) = ["home"] := by
    rw [Disk.start, Disk.isAbsolute, relative_dotted]
    rfl
  rw [start, segments_dotted]
  rfl

/-- **A configuration may be there and not be found, and an attempt may fail and leave a part of
one.**  The first happens on a path that is longer than the disk allows, the second on a disk that
is full. -/
theorem not_written_once :
    (let d := configuredDisk
    let directory := dotted 2048
    d.Sound ∧ ".." ∉ segments directory ∧
      (∃ route bytes, d.walk (d.start directory) (segments directory ++ ["config.toml"]) =
        .ok route ∧ d.node? route = some (.file bytes)) ∧
      (create d directory).1 ≠ .ok ⟨join directory "config.toml", false⟩) ∧
    let d := (Disk.blank ["home"]).full
    d.Sound ∧ ".." ∉ segments "a" ∧ (∃ e, (create d "a").1 = .error e) ∧
      ∃ bytes, (create d "a").2.At "a/config.toml" (.file bytes) := by
  constructor
  · intro d directory
    have created : create d directory =
        (.error (.createDirectory directory .nameTooLong), d) := create_of_long (by decide) d
    have down : ".." ∉ segments directory := by
      rw [segments_dotted]
      decide
    refine ⟨sound_configuredDisk, down, ⟨_, _, walk_dotted 2048, rfl⟩, ?_⟩
    rw [created]
    exact nofun
  · intro d
    let made := d.put ["home", "a"] .directory
    have ready : ensureDirectory d "a" = (.ok (), made) := rfl
    have missing : made.exists? (join "a" "config.toml") ≠ true := fun found => nomatch found
    have written : made.writeBytes (join "a" "config.toml") (Stop.part 0 defaultText.toUTF8) =
        .ok (made.put ["home", "a", "config.toml"] (.file (Stop.part 0 defaultText.toUTF8))) := rfl
    have some_text : defaultText ≠ "" := by decide +kernel
    have told : made.stops = [some (.full 0 Disk.noSpace)] := rfl
    have cut := Disk.writeText_of_full told some_text written
    have created : create d "a" = (.error (.writeFile (join "a" "config.toml")
        (.device Disk.noSpace)), (made.put ["home", "a", "config.toml"]
          (.file (Stop.part 0 defaultText.toUTF8))).withStops []) := by
      rw [create, ready]
      dsimp only
      rw [if_neg missing, cut]
    have there := (Disk.at_withStops _ [] _ _).2 (Disk.at_of_writeBytes written)
    rw [created]
    exact ⟨(Disk.sound_blank ["home"]).withStops _, by decide, ⟨_, rfl⟩, _, there⟩

end ThemeEditor.Config
