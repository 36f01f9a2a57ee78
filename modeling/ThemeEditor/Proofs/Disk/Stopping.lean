/-
# ThemeEditor.Proofs.Disk.Stopping -- writes that the system stops

Three things can come of writing a text (`Wrote`, `wrote_writeText`).  It finds no
place or is not let in, and no file changes; or all of it arrives; or it is cut off
when its file is already open, and the file holds a beginning of it.

`CutOff` tells of two disks whether a write between them was cut off.  It is the stops
alone that decide, and they decide nothing else: with any stops, paths lead to the same
places and the same is read there (`walk_withStops`, `readBytes_withStops`).
-/
import ThemeEditor.Proofs.Disk.Sound

namespace ThemeEditor.Disk

set_option autoImplicit false

variable {d d' : Disk} {path text : String} {stops : List (Option Stop)}

/-! ## Disks with other stops -/

@[simp] theorem current_withStops (d : Disk) (stops : List (Option Stop)) :
    (d.withStops stops).current = d.current := rfl

@[simp] theorem stops_withStops (d : Disk) (stops : List (Option Stop)) :
    (d.withStops stops).stops = stops := rfl

@[simp] theorem node?_withStops (d : Disk) (stops : List (Option Stop)) (route : Route) :
    (d.withStops stops).node? route = d.node? route := rfl

@[simp] theorem walk_withStops (d : Disk) (stops : List (Option Stop)) (names : List String) :
    ∀ here, (d.withStops stops).walk here names = d.walk here names := by
  induction names with
  | nil => exact fun _ => rfl
  | cons name names ih =>
      intro here
      simp only [walk, node?_withStops, ih]

@[simp] theorem routeOf_withStops (d : Disk) (stops : List (Option Stop)) (location : Location) :
    (d.withStops stops).routeOf location = d.routeOf location :=
  walk_withStops d stops _ _

@[simp] theorem lookup_withStops (d : Disk) (stops : List (Option Stop)) (path : String) :
    (d.withStops stops).lookup path = d.lookup path := by
  simp only [lookup, routeOf_withStops, node?_withStops]

@[simp] theorem isDirectoryAt_withStops (d : Disk) (stops : List (Option Stop)) (path : String) :
    (d.withStops stops).isDirectoryAt path = d.isDirectoryAt path := by
  simp only [isDirectoryAt, lookup_withStops]

@[simp] theorem readBytes_withStops (d : Disk) (stops : List (Option Stop)) (path : String) :
    (d.withStops stops).readBytes path = d.readBytes path := by
  simp only [readBytes, lookup_withStops]

@[simp] theorem target_withStops (d : Disk) (stops : List (Option Stop)) (path : String) :
    (d.withStops stops).target path = d.target path := by
  simp only [target, routeOf_withStops, node?_withStops]

theorem Sound.withStops (sound : d.Sound) (stops : List (Option Stop)) :
    (d.withStops stops).Sound :=
  ⟨sound.inside, sound.current⟩

theorem Grown.withStops {way : Route} (grown : Grown d d' way) (stops : List (Option Stop)) :
    Grown d (d'.withStops stops) way where
  current := grown.current
  sound := grown.sound.withStops stops
  kept := grown.kept
  made := grown.made

/-! ## Beginnings of texts -/

/-- Some of the first bytes of a text, and not all of them. -/
def Beginning (part : ByteArray) (text : String) : Prop :=
  ∃ n < text.utf8ByteSize, part = text.toUTF8.extract 0 n

theorem beginning_part (room : Nat) (filled : text.toUTF8.size ≠ 0) :
    Beginning (Stop.part room text.toUTF8) text := by
  have size : text.toUTF8.size = text.utf8ByteSize := rfl
  exact ⟨_, by omega, rfl⟩

/-- A beginning is shorter than its text. -/
theorem Beginning.size_lt {part : ByteArray} (beginning : Beginning part text) :
    part.size < text.utf8ByteSize := by
  obtain ⟨n, short, rfl⟩ := beginning
  rw [ByteArray.size_extract]
  omega

/-- A beginning that is a text itself goes on to the whole text. -/
theorem Beginning.append {front : String} (beginning : Beginning front.toUTF8 text) :
    ∃ rest, rest ≠ "" ∧ text = front ++ rest := by
  obtain ⟨n, short, same⟩ := beginning
  have isText : (text.toByteArray.extract 0 n).IsValidUTF8 := by
    have valid := front.isValidUTF8
    rwa [← String.toUTF8_eq_toByteArray, same] at valid
  have isPlace : String.Pos.Raw.IsValid text ⟨n⟩ :=
    String.Pos.Raw.isValid_iff_isValidUTF8_extract_zero.2 ⟨Nat.le_of_lt short, isText⟩
  obtain ⟨first, rest, whole, ends⟩ := String.Pos.Raw.isValid_iff_exists_append.1 isPlace
  have size : n = first.utf8ByteSize := congrArg String.Pos.Raw.byteIdx ends
  have isFirst : front = first := by
    rw [← String.toByteArray_inj, ← String.toUTF8_eq_toByteArray, same, whole, size,
      String.toUTF8_eq_toByteArray, String.toByteArray_append]
    exact ByteArray.extract_append_eq_left rfl
  refine ⟨rest, ?_, isFirst ▸ whole⟩
  rintro rfl
  rw [whole, String.append_empty, size] at short
  exact Nat.lt_irrefl _ short

/-! ## Stops -/

/-- The next write is not stopped. -/
def Ready (d : Disk) : Prop :=
  d.stops.head?.join = none

/-- No write is ever stopped. -/
def Steady (d : Disk) : Prop :=
  ∀ stop ∈ d.stops, stop = none

/-- Between two disks, a text was cut off when its file was already open. -/
def CutOff (before after : Disk) : Prop :=
  ∃ room words, before.stops = some (.full room words) :: after.stops

theorem Steady.ready (steady : d.Steady) : d.Ready := by
  unfold Ready
  cases told : d.stops with
  | nil => rfl
  | cons stop stops => exact steady stop (told ▸ List.mem_cons_self)

theorem not_cutOff_of_stops (same : d'.stops = d.stops) : ¬ CutOff d d' := by
  rintro ⟨room, words, next⟩
  rw [same] at next
  exact List.cons_ne_self _ _ next.symm

theorem not_cutOff_self (d : Disk) : ¬ CutOff d d :=
  not_cutOff_of_stops rfl

/-- On a disk that is ready nothing is cut off. -/
theorem Ready.not_cutOff (ready : d.Ready) : ¬ CutOff d d' := by
  rintro ⟨room, words, next⟩
  rw [Ready, next] at ready
  cases ready

theorem Steady.not_cutOff (steady : d.Steady) : ¬ CutOff d d' :=
  steady.ready.not_cutOff

theorem Steady.of_suffix (steady : d.Steady) (suffix : d'.stops <:+ d.stops) : d'.Steady :=
  fun stop told => steady stop (suffix.subset told)

/-- What the system says of a device without room. -/
def noSpace : String := "No space left on device (os error 28)"

/-- The disk when there is no room for the next text. -/
def full (d : Disk) : Disk :=
  d.withStops [some (.full 0 noSpace)]

/-! ## Writing texts -/

/-- What comes of writing a text. -/
inductive Wrote (d : Disk) (path text : String) : Except Fault Unit × Disk → Prop where
  /-- No file changes. -/
  | refused (f : Fault) {stops : List (Option Stop)} (suffix : stops <:+ d.stops)
      (uncut : ¬ CutOff d (d.withStops stops)) : Wrote d path text (.error f, d.withStops stops)
  | whole {d' : Disk} {stops : List (Option Stop)} (suffix : stops <:+ d.stops)
      (uncut : ¬ CutOff d (d.withStops stops))
      (written : (d.withStops stops).writeBytes path text.toUTF8 = .ok d') :
      Wrote d path text (.ok (), d')
  /-- Only a beginning arrives. -/
  | cut (f : Fault) {d' : Disk} {part : ByteArray} {stops : List (Option Stop)}
      (suffix : stops <:+ d.stops) (isCut : CutOff d (d.withStops stops))
      (beginning : Beginning part text)
      (written : (d.withStops stops).writeBytes path part = .ok d') :
      Wrote d path text (.error f, d')

/-- What has a place for its file is written there. -/
theorem writeBytes_of_target {route : Route} {there : ByteArray}
    (aimed : d.target path = .ok (route, there)) (stops : List (Option Stop)) (bytes : ByteArray) :
    (d.withStops stops).writeBytes path bytes =
      .ok ((d.withStops stops).put route (.file bytes)) := by
  rw [writeBytes, target_withStops, aimed]

theorem stops_writeBytes {bytes : ByteArray} (written : d.writeBytes path bytes = .ok d') :
    d'.stops = d.stops := by
  unfold writeBytes at written
  split at written
  · cases written
  · cases written
    rfl

theorem wrote_writeText (d : Disk) (path text : String) :
    Wrote d path text (d.writeText path text) := by
  unfold writeText
  split
  · exact .refused _ List.suffix_rfl (not_cutOff_self d)
  · next aimed =>
    have written := writeBytes_of_target aimed
    unfold fill
    split
    · next told =>
      refine .refused _ (told ▸ List.suffix_cons _ _) ?_
      rintro ⟨room, words, next⟩
      rw [told] at next
      cases next
    · next room words stops told =>
      split
      · exact .whole List.suffix_rfl (not_cutOff_self d) (written d.stops _)
      · next filled =>
        exact .cut _ (told ▸ List.suffix_cons _ _) ⟨room, words, told⟩ (beginning_part room filled)
          (written stops _)
    · next notUnopened notFull =>
      refine .whole (List.tail_suffix _) ?_ (written d.stops.tail _)
      rintro ⟨room, words, next⟩
      exact notFull room words _ next

theorem stops_writeText (d : Disk) (path text : String) :
    (d.writeText path text).2.stops <:+ d.stops := by
  have wrote := wrote_writeText d path text
  generalize d.writeText path text = result at wrote ⊢
  cases wrote with
  | refused f suffix => exact suffix
  | whole suffix uncut written => exact stops_writeBytes written ▸ suffix
  | cut f suffix isCut beginning written => exact stops_writeBytes written ▸ suffix

theorem stops_removeFile (removed : d.removeFile path = .ok d') : d'.stops = d.stops := by
  unfold removeFile at removed
  split at removed
  · cases removed
  · cases removed
  · cases removed
  · cases removed
    rfl

/-- A text that has a place is written if nothing stops it. -/
theorem writeText_of_ready (ready : d.Ready) (written : d.writeBytes path text.toUTF8 = .ok d') :
    d.writeText path text = (.ok (), d'.withStops d.stops.tail) := by
  unfold writeBytes at written
  unfold writeText
  split at written
  · cases written
  · cases written
    unfold fill
    split
    · next told =>
      rw [Ready, told] at ready
      cases ready
    · next told =>
      rw [Ready, told] at ready
      cases ready
    · rfl

/-- Of a text that has a place a part is written if its file takes only so many bytes. -/
theorem writeText_of_full {room : Nat} {words : String}
    (told : d.stops = some (.full room words) :: stops) (filled : text ≠ "")
    (written : d.writeBytes path (Stop.part room text.toUTF8) = .ok d') :
    d.writeText path text = (.error (.device words), d'.withStops stops) := by
  have some_bytes : text.toUTF8.size ≠ 0 := by
    rw [String.toUTF8_eq_toByteArray, String.size_toByteArray]
    exact mt String.utf8ByteSize_eq_zero_iff.1 filled
  unfold writeBytes at written
  unfold writeText
  split at written
  · cases written
  · cases written
    simp only [fill, told, some_bytes, if_false]
    rfl

end ThemeEditor.Disk
