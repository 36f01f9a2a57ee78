/-
# ThemeEditor.Proofs.Disk.Overwrite -- files that are written while others are read

A file that is written is what is read next at its path
(`readBytes_of_writeBytes`).  It is in nobody's way: what could be read before can
still be read, and is what it was unless it was written over (`readBytes_put`).  It
does not matter how the paths lead there, nor what the bytes are.  What could not be
read is still not read, unless it was missing and is now there
(`readBytes_put_apart`, `readBytes_put_missing`).

Where a file is read, its directory is there and nothing has to be made
(`makeDirectories_of_readBytes`), so another file can be written over it
(`overwrite`).
-/
import ThemeEditor.Proofs.Disk.Directory

namespace ThemeEditor.Disk

set_option autoImplicit false

variable {d d' : Disk} {path name : String} {bytes : ByteArray}

/-! ## Following paths past a new file -/

section

variable {route : Route} (free : d.node? route ≠ some .directory)

include free

theorem ne_nil_of_free : route ≠ [] := by
  rintro rfl
  exact free rfl

/-- Whoever got somewhere before gets there past a file that is written. -/
theorem walk_put (bytes : ByteArray) : ∀ {names : List String} {here reached : Route},
    d.walk here names = .ok reached →
      (d.put route (.file bytes)).walk here names = .ok reached
  | [], _, _, led => led
  | name :: names, here, reached, led => by
      simp only [walk] at led ⊢
      split at led
      · cases led
      · cases led
      · next isDirectory =>
        have other : here ≠ route := fun same => free (same ▸ isDirectory)
        rw [node?_put (ne_nil_of_free free), if_neg other, isDirectory]
        dsimp only
        split at led
        · next up =>
          rw [if_pos up]
          exact walk_put bytes led
        · next down =>
          split at led
          · cases led
          · next fits =>
            rw [if_neg down, if_neg fits]
            exact walk_put bytes led

/-- A file opens no way: whoever gets past it got there before. -/
theorem walk_of_put (bytes : ByteArray) : ∀ {names : List String} {here reached : Route},
    (d.put route (.file bytes)).walk here names = .ok reached →
      d.walk here names = .ok reached
  | [], _, _, led => led
  | name :: names, here, reached, led => by
      have other : here ≠ route := by
        rintro rfl
        simp only [walk, node?_put_self (ne_nil_of_free free)] at led
        cases led
      simp only [walk, node?_put (ne_nil_of_free free), if_neg other] at led ⊢
      split at led
      · cases led
      · cases led
      · split at led
        · next up =>
          rw [if_pos up]
          exact walk_of_put bytes led
        · next down =>
          split at led
          · cases led
          · next fits =>
            rw [if_neg down, if_neg fits]
            exact walk_of_put bytes led

end

/-- Names that pass by an entry are followed as without it. -/
theorem walk_put_apart {route : Route} (notRoot : route ≠ []) (entry : Entry) :
    ∀ {names : List String} {here : Route}, ".." ∉ names →
      (∀ p, here <+: p → p <+: here ++ names → p ≠ here ++ names → p ≠ route) →
        (d.put route entry).walk here names = d.walk here names
  | [], _, _, _ => rfl
  | name :: names, here, down, apart => by
      have other : here ≠ route := apart here List.prefix_rfl (List.prefix_append _ _) (by simp)
      rw [List.mem_cons, not_or] at down
      rw [List.append_cons] at apart
      have rest : (d.put route entry).walk (here ++ [name]) names = d.walk (here ++ [name]) names :=
        walk_put_apart notRoot entry down.2
          fun p below => apart p ((List.prefix_append here [name]).trans below)
      simp only [walk, node?_put notRoot, if_neg other, rest, Ne.symm down.1, if_false]

/-- Names that are not found lead past something that is missing. -/
theorem missing_of_walk : ∀ {names : List String} {here : Route}, ".." ∉ names →
    d.walk here names = .error .notFound →
      ∃ p, p <+: here ++ names ∧ p ≠ here ++ names ∧ d.node? p = none
  | [], _, _, lost => by cases lost
  | name :: names, here, down, lost => by
      rw [List.mem_cons, not_or] at down
      simp only [walk, Ne.symm down.1, if_false] at lost
      split at lost
      · next gone => exact ⟨here, List.prefix_append _ _, by simp, gone⟩
      · cases lost
      · split at lost
        · cases lost
        · rw [List.append_cons]
          exact missing_of_walk down.2 lost

/-! ## Any path -/

/-- What is read is a file at the end of a path that need not be a directory. -/
theorem readBytes_eq_ok : d.readBytes path = .ok bytes ↔
    ∃ location route, Location.ofPath path = .ok location ∧ d.routeOf location = .ok route ∧
      d.node? route = some (.file bytes) ∧ location.directory = false := by
  unfold readBytes lookup
  cases read : Location.ofPath path with
  | error f => simp [bind, Except.bind]
  | ok location =>
      cases led : d.routeOf location with
      | error f => simp [bind, Except.bind, led]
      | ok route =>
          rcases found : d.node? route with _ | _ | content
          · simp [bind, Except.bind, led, found, pure, Except.pure]
          · simp [bind, Except.bind, led, found, pure, Except.pure]
          · cases only : location.directory <;>
              simp [bind, Except.bind, led, found, only, pure, Except.pure, throw, throwThe,
                MonadExceptOf.throw]

/-- A file that is written leaves every other one to be read. -/
theorem readBytes_put {route : Route} (free : d.node? route ≠ some .directory)
    (there : d.readBytes path = .ok bytes) (bytes' : ByteArray) :
    (d.put route (.file bytes')).readBytes path = .ok bytes ∨
      (d.put route (.file bytes')).readBytes path = .ok bytes' := by
  obtain ⟨location, reached, read, led, file, only⟩ := readBytes_eq_ok.1 there
  have led' : (d.put route (.file bytes')).routeOf location = .ok reached :=
    walk_put free bytes' led
  by_cases same : reached = route
  · refine .inr (readBytes_eq_ok.2 ⟨location, reached, read, led', ?_, only⟩)
    rw [same, node?_put_self (ne_nil_of_free free)]
  · refine .inl (readBytes_eq_ok.2 ⟨location, reached, read, led', ?_, only⟩)
    rw [node?_put (ne_nil_of_free free), if_neg same, file]

/-- Where something is read past a file that was written, it is that file or could be read
before. -/
theorem readBytes_of_put {route : Route} (free : d.node? route ≠ some .directory)
    {bytes' : ByteArray} (there : (d.put route (.file bytes')).readBytes path = .ok bytes) :
    bytes = bytes' ∨ d.readBytes path = .ok bytes := by
  obtain ⟨location, reached, read, led, file, only⟩ := readBytes_eq_ok.1 there
  by_cases same : reached = route
  · rw [same, node?_put_self (ne_nil_of_free free)] at file
    cases file
    exact .inl rfl
  · rw [node?_put (ne_nil_of_free free), if_neg same] at file
    exact .inr (readBytes_eq_ok.2 ⟨location, reached, read, walk_of_put free bytes' led, file, only⟩)

/-- A file that is written leaves every directory where it is. -/
theorem isDirectoryAt_put {route : Route} (free : d.node? route ≠ some .directory)
    (isDirectory : d.isDirectoryAt path = true) (bytes : ByteArray) :
    (d.put route (.file bytes)).isDirectoryAt path = true := by
  obtain ⟨location, reached, read, led, there⟩ := isDirectoryAt_iff.1 isDirectory
  have other : reached ≠ route := by
    rintro rfl
    exact free there
  refine isDirectoryAt_iff.2 ⟨location, reached, read, walk_put free bytes led, ?_⟩
  rw [node?_put (ne_nil_of_free free), if_neg other, there]

/-- A file is written at the end of a path that need not be a directory, and over none. -/
theorem writeBytes_eq_ok (written : d.writeBytes path bytes = .ok d') :
    ∃ location route, Location.ofPath path = .ok location ∧ d.routeOf location = .ok route ∧
      d.node? route ≠ some .directory ∧ location.directory = false ∧
      d' = d.put route (.file bytes) := by
  unfold writeBytes target at written
  cases read : Location.ofPath path with
  | error f =>
      rw [read] at written
      cases written
  | ok location =>
      rw [read] at written
      cases led : d.routeOf location with
      | error f =>
          simp only [bind, Except.bind, led] at written
          cases written
      | ok route =>
          simp only [bind, Except.bind, led] at written
          refine ⟨location, route, rfl, led, ?_⟩
          rcases found : d.node? route with _ | _ | content
          · cases only : location.directory <;> cases existing : location.existing <;>
              simp [found, only, existing, pure, Except.pure, throw, throwThe,
                MonadExceptOf.throw] at written
            exact ⟨nofun, rfl, written.symm⟩
          · simp [found, throw, throwThe, MonadExceptOf.throw] at written
          · cases only : location.directory <;> cases existing : location.existing <;>
              simp [found, only, existing, pure, Except.pure, throw, throwThe,
                MonadExceptOf.throw] at written
            exact ⟨nofun, rfl, written.symm⟩

/-- What was written is read. -/
theorem readBytes_of_writeBytes (written : d.writeBytes path bytes = .ok d') :
    d'.readBytes path = .ok bytes := by
  obtain ⟨location, route, read, led, free, only, rfl⟩ := writeBytes_eq_ok written
  exact readBytes_eq_ok.2 ⟨location, route, read, walk_put free bytes led,
    node?_put_self (ne_nil_of_free free) _, only⟩

theorem readBytes_of_writeText {text : String} (written : d.writeText path text = (.ok (), d')) :
    d'.readBytes path = .ok text.toUTF8 := by
  have wrote := wrote_writeText d path text
  rw [written] at wrote
  cases wrote with
  | whole suffix uncut written => exact readBytes_of_writeBytes written

/-! ## Files by their names -/

section

variable (isName : IsName name) (down : ".." ∉ segments path)

include isName down

/-- Nobody notices an entry that is neither the file nor on the way to it. -/
theorem readBytes_put_apart {route : Route} (apart : ¬ route <+: d.spelled path ++ [name])
    (entry : Entry) : (d.put route entry).readBytes (join path name) = d.readBytes (join path name)
    := by
  have notRoot : route ≠ [] := by
    rintro rfl
    exact apart List.nil_prefix
  have down' := isName.down_snoc down
  cases read : Location.ofPath (join path name) with
  | error f => rw [readBytes_of_ofPath_error read, readBytes_of_ofPath_error read]
  | ok location =>
      have led : (d.put route entry).walk (d.start path) (segments path ++ [name]) =
          d.walk (d.start path) (segments path ++ [name]) := by
        refine walk_put_apart notRoot entry down' fun p _ onWay _ same => apart ?_
        rw [← same, spelled, List.append_assoc]
        exact onWay
      have start : (d.put route entry).start path = d.start path := rfl
      rw [readBytes_join isName read, readBytes_join isName read, start, led]
      cases reached : d.walk (d.start path) (segments path ++ [name]) with
      | error f => rfl
      | ok file =>
          have other : file ≠ route := by
            rintro rfl
            rw [(walk_ok down' reached).1, spelled, List.append_assoc] at apart
            exact apart List.prefix_rfl
          dsimp only
          rw [node?_put notRoot, if_neg other]

/-- A missing file that is put into its directory is read. -/
theorem readBytes_put_missing (sound : d.Sound)
    (isDirectory : d.node? (d.spelled path) = some .directory)
    (missing : d.readBytes (join path name) = .error .notFound) (bytes : ByteArray) :
    (d.put (d.spelled path ++ [name]) (.file bytes)).readBytes (join path name) = .ok bytes := by
  have down' := isName.down_snoc down
  obtain ⟨location, read⟩ := readable_of_missing isName missing
  rw [readBytes_join isName read] at missing
  cases reached : d.walk (d.start path) (segments path ++ [name]) with
  | error f =>
      -- everything above the file is a directory
      rw [reached] at missing
      cases missing
      obtain ⟨p, onWay, above, gone⟩ := missing_of_walk down' reached
      rw [← List.append_assoc, ← spelled] at onWay above
      have standing : p <+: d.spelled path := by
        rcases List.prefix_concat_iff.1 onWay with same | below
        · exact absurd same above
        · exact below
      have present : d.node? p = some .directory := by
        by_cases same : p = d.spelled path
        · rw [same, isDirectory]
        · exact sound.above standing same (by simp [isDirectory])
      rw [gone] at present
      cases present
  | ok file =>
      obtain ⟨rfl, -⟩ := walk_ok down' reached
      rw [reached] at missing
      dsimp only at missing
      rw [spelled, List.append_assoc]
      have free : d.node? (d.start path ++ (segments path ++ [name])) ≠ some .directory := by
        intro found
        rw [found] at missing
        cases missing
      have start : (d.put (d.start path ++ (segments path ++ [name])) (.file bytes)).start path =
          d.start path := rfl
      rw [readBytes_join isName read, start, walk_put free bytes reached]
      dsimp only
      rw [node?_put_self (by simp)]

end

/-! ## Files that can be read -/

section

variable (isName : IsName name) (there : d.readBytes (join path name) = .ok bytes)

include isName there

/-- A file that is read lies at the end of its path. -/
theorem walk_of_readBytes :
    ∃ location route, Location.ofPath (join path name) = .ok location ∧
      d.walk (d.start path) (segments path ++ [name]) = .ok route ∧
      d.node? route = some (.file bytes) := by
  obtain ⟨location, route, read, led, file, -⟩ := readBytes_eq_ok.1 there
  refine ⟨location, route, read, ?_, file⟩
  rw [← led, ofPath_join isName read]
  rfl

/-- To the directory of a file that is read nothing has to be made. -/
theorem makeDirectories_of_readBytes : d.makeDirectories path = (.ok (), d) := by
  obtain ⟨location, route, read, led, -⟩ := walk_of_readBytes isName there
  obtain ⟨parent, toParent, isDirectory, -⟩ := walk_last isName.down led
  exact makeDirectories_of_walk (ofPath_of_join isName read) toParent isDirectory

/-- Any bytes can be written over a file that is read, and are read then. -/
theorem overwrite (bytes' : ByteArray) :
    ∃ d', d.writeBytes (join path name) bytes' = .ok d' ∧
      d'.readBytes (join path name) = .ok bytes' := by
  obtain ⟨location, route, read, led, file⟩ := walk_of_readBytes isName there
  have aimed : d.target (join path name) = .ok (route, bytes) := by
    rw [target, read, ofPath_join isName read]
    simp only [bind, Except.bind, routeOf]
    rw [start] at led
    rw [led]
    simp only [file]
    rfl
  have written : d.writeBytes (join path name) bytes' = .ok (d.put route (.file bytes')) := by
    rw [writeBytes, aimed]
  exact ⟨_, written, readBytes_of_writeBytes written⟩

end

/-! ## Directories that could not be made -/

theorem holdsDirectory_iff {location : Location} : d.holdsDirectory location = true ↔
    ∃ route, d.routeOf location = .ok route ∧ d.node? route = some .directory := by
  unfold holdsDirectory
  cases d.routeOf location <;> simp

/-- What leads on leads through a directory. -/
theorem walk_before {here route : Route} {front : List String} {name : String}
    (walked : d.walk here (front ++ [name]) = .ok route) :
    ∃ parent, d.walk here front = .ok parent ∧ d.node? parent = some .directory := by
  rw [walk_append] at walked
  split at walked
  · cases walked
  · next parent toParent =>
    rw [walk] at walked
    split at walked
    · cases walked
    · cases walked
    · next isDirectory => exact ⟨parent, toParent, isDirectory⟩

/-- Above a directory there are directories. -/
theorem holdsDirectory_upTo {location : Location} {count : Nat}
    (holds : d.holdsDirectory (location.upTo (count + 1)) = true) :
    d.holdsDirectory (location.upTo count) = true := by
  rw [holdsDirectory_iff] at holds ⊢
  obtain ⟨route, led, isDirectory⟩ := holds
  have steps : (location.upTo (count + 1)).segments =
      (location.upTo count).segments ++ location.segments[count]?.toList :=
    List.take_add_one
  unfold routeOf at led ⊢
  rw [steps] at led
  cases last : location.segments[count]? with
  | none =>
      rw [last, Option.toList_none, List.append_nil] at led
      exact ⟨route, led, isDirectory⟩
  | some name =>
      rw [last] at led
      exact walk_before led

theorem ensureDirectoryAt_error {location : Location} {f : Fault}
    (failed : d.ensureDirectoryAt location = (.error f, d')) :
    d'.holdsDirectory location = false := by
  unfold ensureDirectoryAt at failed
  split at failed
  · cases failed
  · split at failed
    · cases failed
    · next absent =>
      cases failed
      exact Bool.not_eq_true _ ▸ absent

/-- A directory that could not be made is not there. -/
theorem makeAll_error {location : Location} : ∀ {count : Nat} {f : Fault},
    d.makeAll location count = (.error f, d') →
      d'.holdsDirectory (location.upTo count) = false
  | 0, f, failed => by
      unfold makeAll at failed
      split at failed
      · exact ensureDirectoryAt_error failed
      · cases failed
  | count + 1, f, failed => by
      unfold makeAll at failed
      dsimp only at failed
      split at failed
      · cases failed
      · split at failed
        · next above =>
          cases failed
          by_contra holds
          have none := makeAll_error above
          rw [holdsDirectory_upTo (Bool.not_eq_false _ ▸ holds)] at none
          cases none
        · exact ensureDirectoryAt_error failed
      · split at failed
        · cases failed
        · next absent =>
          cases failed
          exact Bool.not_eq_true _ ▸ absent

/-- Nobody gets through a directory that could not be made. -/
theorem lost_of_makeDirectories_error (isName : IsName name) {f : Fault} {location : Location}
    {route : Route} (failed : d.makeDirectories path = (.error f, d'))
    (read : Location.ofPath (join path name) = .ok location) :
    d'.walk (d'.start path) (segments path ++ [name]) ≠ .ok route := by
  intro led
  obtain ⟨parent, toParent, isDirectory⟩ := walk_before led
  unfold makeDirectories at failed
  split at failed
  · cases failed
  · next notEmpty =>
    obtain ⟨location', read'⟩ := ofPath_of_join isName read notEmpty
    rw [read'] at failed
    have holds : d'.holdsDirectory (location'.upTo location'.segments.length) = true :=
      holdsDirectory_iff.2 ⟨parent, (routeOf_upTo read').trans toParent, isDirectory⟩
    rw [makeAll_error failed] at holds
    cases holds

/-- In a directory that could not be made nothing is read. -/
theorem unread_of_makeDirectories_error (isName : IsName name) {f : Fault}
    (failed : d.makeDirectories path = (.error f, d')) :
    d'.readBytes (join path name) ≠ .ok bytes := by
  intro there
  obtain ⟨location, route, read, led, -⟩ := walk_of_readBytes isName there
  exact lost_of_makeDirectories_error isName failed read led

end ThemeEditor.Disk
