/-
# ThemeEditor.Proofs.Disk.Walk -- where a path leads

A path is a text; `segments` are its steps, and `spelled` is the route they make
from where the path starts.  A path that goes through names only, none of them
too long, leads to the route it spells if everything above that route is a
directory.  Otherwise the first thing that is none decides the fault (`Walked`):
what is missing is not found, and what is a file is no directory.
-/
import ThemeEditor.Proofs.Disk.Sound

namespace ThemeEditor.Disk

set_option autoImplicit false

variable {d : Disk}

/-! ## Paths as texts -/

/-- The steps of a path. -/
def segments (path : String) : List String :=
  (pieces path).filter fun p => !isStay p

/-- Where the steps of a path start. -/
def start (d : Disk) (path : String) : Route :=
  if isAbsolute path then [] else d.current

/-- The route that a path spells. -/
def spelled (d : Disk) (path : String) : Route :=
  d.start path ++ segments path

/-- From one working directory a path spells one route. -/
theorem spelled_congr {d' : Disk} (current : d'.current = d.current) (path : String) :
    d'.spelled path = d.spelled path := by
  simp only [spelled, start, current]

/-- A name: one piece of a path, which leads down. -/
structure IsName (name : String) : Prop where
  noSlash : '/' ∉ name.toList
  steps : isStay name = false
  down : name ≠ ".."

theorem IsName.pieces_eq {name : String} (isName : IsName name) : pieces name = [name] := by
  rw [pieces, List.splitOn_eq_singleton isName.noSlash]
  simp

theorem IsName.segments_eq {name : String} (isName : IsName name) : segments name = [name] := by
  rw [segments, isName.pieces_eq]
  simp [isName.steps]

/-- A name does not lead a path up. -/
theorem IsName.down_snoc {path name : String} (isName : IsName name)
    (down : ".." ∉ segments path) : ".." ∉ segments path ++ [name] := by
  rw [List.mem_append, List.mem_singleton, not_or]
  exact ⟨down, Ne.symm isName.down⟩

theorem IsName.relative {name : String} (isName : IsName name) : isAbsolute name = false := by
  have noSlash := isName.noSlash
  unfold isAbsolute
  cases letters : name.toList with
  | nil => rfl
  | cons c _ =>
      rw [letters] at noSlash
      simpa using fun same : c = '/' => noSlash (by simp [same])

/-! ## One path behind another one -/

/-- What stands between a path and one behind it. -/
def separator (base : String) : String :=
  if base = "" || base.toList.getLast? = some '/' then "" else "/"

theorem separator_eq (base : String) : separator base = "" ∨ separator base = "/" := by
  unfold separator
  split
  · exact .inl rfl
  · exact .inr rfl

theorem size_separator (base : String) : (separator base).utf8ByteSize ≤ 1 := by
  rcases separator_eq base with same | same <;> rw [same] <;> decide

theorem join_of_relative {path : String} (relative : isAbsolute path = false) (base : String) :
    join base path = base ++ separator base ++ path := by
  unfold join separator
  rw [relative, if_neg Bool.false_ne_true]
  split
  · rw [String.append_empty]
  · rfl

theorem separator_append (base path : String) :
    separator (base ++ separator base ++ path) = separator path := by
  by_cases empty : path = ""
  · subst empty
    rw [String.append_empty]
    by_cases closed : base = "" || base.toList.getLast? = some '/'
    · simp only [separator, closed, if_true, String.append_empty]
      rfl
    · simp [separator, closed]
  · have letters := List.getLast?_eq_some_getLast (mt String.toList_eq_nil_iff.1 empty)
    generalize base ++ separator base = front
    have filled : front ++ path ≠ "" := fun nothing =>
      empty (String.append_eq_empty_iff.1 nothing).2
    have last : (front ++ path).toList.getLast? = path.toList.getLast? := by
      rw [String.toList_append, List.getLast?_append, letters, Option.some_or]
    simp only [separator, last, filled, empty]

theorem segments_empty : segments "" = [] := by decide

theorem segments_slash (base path : String) :
    segments (base ++ "/" ++ path) = segments base ++ segments path := by
  have whole : (base ++ "/" ++ path).toList = base.toList ++ '/' :: path.toList := by simp
  rw [segments, pieces, whole, List.splitOn_append_cons_self, List.map_append,
    List.filter_append]
  rfl

/-- A relative path goes on where the one in front of it ends. -/
theorem segments_join_relative {path : String} (relative : isAbsolute path = false)
    (base : String) : segments (join base path) = segments base ++ segments path := by
  unfold join
  rw [relative, if_neg Bool.false_ne_true]
  by_cases empty : base = ""
  · subst empty
    simp [segments_empty]
  · by_cases slash : base.toList.getLast? = some '/'
    · obtain ⟨front, spelled⟩ := List.getLast?_eq_some_iff.1 slash
      have same : base = String.ofList front ++ "/" ++ "" := by
        apply String.toList_injective
        simp [spelled]
      have more : base ++ path = String.ofList front ++ "/" ++ path := by
        rw [same, String.append_empty]
      simp only [slash, decide_true, Bool.or_true, if_true]
      rw [more, segments_slash, same, segments_slash, segments_empty, List.append_nil]
    · simp only [empty, slash, decide_false, Bool.or_self, Bool.false_eq_true, if_false]
      exact segments_slash base path

/-- A name put behind a path is its last piece. -/
theorem pieces_join {name : String} (isName : IsName name) (base : String) :
    ∃ front, pieces (join base name) = front ++ [name] ∧
      front.filter (fun p => !isStay p) = segments base := by
  have last := isName.pieces_eq
  unfold join
  rw [isName.relative, if_neg Bool.false_ne_true]
  by_cases empty : base = ""
  · subst empty
    refine ⟨[], ?_, by decide⟩
    simpa using last
  · by_cases slash : base.toList.getLast? = some '/'
    · obtain ⟨front, spelled⟩ := List.getLast?_eq_some_iff.1 slash
      refine ⟨(front.splitOn '/').map String.ofList, ?_, ?_⟩
      · have whole : (base ++ name).toList = front ++ '/' :: name.toList := by simp [spelled]
        simp only [empty, slash, decide_true, Bool.or_true, if_true]
        rw [pieces, whole, List.splitOn_append_cons_self, List.map_append, ← pieces, last]
      · rw [segments, pieces, spelled, List.splitOn_append_cons_self]
        simp [isStay]
    · refine ⟨pieces base, ?_, rfl⟩
      have whole : (base ++ "/" ++ name).toList = base.toList ++ '/' :: name.toList := by simp
      simp only [empty, slash, decide_false, Bool.or_self, Bool.false_eq_true, if_false]
      rw [pieces, whole, List.splitOn_append_cons_self, List.map_append, ← pieces, ← pieces, last]

theorem isAbsolute_join {name : String} (isName : IsName name) (base : String) :
    isAbsolute (join base name) = isAbsolute base := by
  unfold join
  rw [isName.relative, if_neg Bool.false_ne_true]
  by_cases empty : base = ""
  · have none : isAbsolute "" = false := by decide
    simpa [empty, none] using isName.relative
  · obtain ⟨c, cs, letters⟩ := List.exists_cons_of_ne_nil (mt String.toList_eq_nil_iff.1 empty)
    split <;> simp [isAbsolute, letters]

/-- It does not matter which two of three paths are put together first. -/
theorem join_join {name : String} (isName : IsName name) (base path : String) :
    join base (join path name) = join (join base path) name := by
  have relative := isName.relative
  have same := isAbsolute_join isName path
  cases rooted : isAbsolute path with
  | true =>
      have stays : ∀ p, isAbsolute p = true → join base p = p := fun p absolute => by
        rw [join, absolute, if_pos rfl]
      rw [stays path rooted, stays _ (same.trans rooted)]
  | false =>
      rw [join_of_relative (same.trans rooted), join_of_relative relative,
        join_of_relative rooted, join_of_relative relative, separator_append]
      simp only [String.append_assoc]

/-- What a path with a name at its end asks for. -/
theorem ofPath_join {base name : String} {location : Location} (isName : IsName name)
    (read : Location.ofPath (join base name) = .ok location) :
    location = ⟨isAbsolute base, segments base ++ [name], false, false⟩ := by
  obtain ⟨front, spelled, kept⟩ := pieces_join isName base
  have ne : name ≠ "" := by
    rintro rfl
    exact absurd isName.steps (by decide)
  have notDot : name ≠ "." := by
    rintro rfl
    exact absurd isName.steps (by decide)
  unfold Location.ofPath at read
  split at read
  · cases read
  split at read
  · cases read
  split at read
  · cases read
  cases read
  simp [spelled, kept, isName.steps, isAbsolute_join isName, List.filter_append, ne, notDot]

theorem join_ne_empty {name : String} (isName : IsName name) (base : String) :
    join base name ≠ "" := by
  intro empty
  obtain ⟨front, spelled, -⟩ := pieces_join isName base
  have single : pieces "" = [""] := by decide
  rw [empty, single] at spelled
  have last : name = "" := by
    cases front with
    | nil => simpa using spelled.symm
    | cons p front => simp at spelled
  have steps := isName.steps
  rw [last] at steps
  exact absurd steps (by decide)

/-- A path with a name at its end is not missing for the way it is written. -/
theorem ofPath_join_ne_notFound {base name : String} (isName : IsName name) :
    Location.ofPath (join base name) ≠ .error .notFound := by
  intro missing
  unfold Location.ofPath at missing
  split at missing
  · cases missing
  split at missing
  · next empty => exact join_ne_empty isName base empty
  split at missing <;> cases missing

theorem mem_join {base name : String} (isName : IsName name) {c : Char}
    (member : c ∈ (join base name).toList) : c ∈ base.toList ∨ c = '/' ∨ c ∈ name.toList := by
  rw [join_of_relative isName.relative, String.toList_append, String.toList_append,
    List.mem_append, List.mem_append] at member
  rcases member with (inBase | separates) | inName
  · exact .inl inBase
  · rcases separator_eq base with same | same
    · rw [same, String.toList_empty] at separates
      cases separates
    · have slash : "/".toList = ['/'] := by decide
      rw [same, slash] at separates
      exact .inr (.inl (List.mem_singleton.1 separates))
  · exact .inr (.inr inName)

theorem size_join {name : String} (isName : IsName name) (base : String) :
    (join base name).utf8ByteSize ≤ base.utf8ByteSize + 1 + name.utf8ByteSize := by
  have one := size_separator base
  rw [join_of_relative isName.relative, String.utf8ByteSize_append, String.utf8ByteSize_append]
  omega

theorem le_size_join {name : String} (isName : IsName name) (base : String) :
    base.utf8ByteSize + name.utf8ByteSize ≤ (join base name).utf8ByteSize := by
  rw [join_of_relative isName.relative, String.utf8ByteSize_append, String.utf8ByteSize_append]
  omega

/-- A text that can be read as a path holds no NUL. -/
theorem noNul_of_ofPath {path : String} {location : Location}
    (read : Location.ofPath path = .ok location) : '\x00' ∉ path.toList := by
  unfold Location.ofPath at read
  split at read
  · cases read
  · next noNul =>
    intro member
    exact noNul (List.contains_iff_mem.2 member)

theorem ofPath_of_long {path : String} (noNul : '\x00' ∉ path.toList)
    (long : maxPathSize < path.utf8ByteSize) : Location.ofPath path = .error .nameTooLong := by
  have absent : ¬ path.toList.contains '\x00' = true := fun found =>
    noNul (List.contains_iff_mem.1 found)
  have nonempty : path ≠ "" := by
    rintro rfl
    exact absurd long (by decide)
  rw [Location.ofPath, if_neg absent, if_neg nonempty, if_pos long]

section

variable {base name : String} (isName : IsName name) (noNul : '\x00' ∉ base.toList ++ name.toList)

include isName noNul

theorem noNul_join : '\x00' ∉ (join base name).toList := by
  intro member
  rw [List.mem_append, not_or] at noNul
  rcases mem_join isName member with inBase | slash | inName
  · exact noNul.1 inBase
  · exact absurd slash (by decide)
  · exact noNul.2 inName

/-- A path with a name at its end is a path, unless it is too long. -/
theorem readable_of_size (fits : (join base name).utf8ByteSize ≤ maxPathSize) :
    ∃ location, Location.ofPath (join base name) = .ok location := by
  have absent : ¬ (join base name).toList.contains '\x00' = true := fun found =>
    noNul_join isName noNul (List.contains_iff_mem.1 found)
  rw [Location.ofPath, if_neg absent, if_neg (join_ne_empty isName base), if_neg (Nat.not_lt.2 fits)]
  exact ⟨_, rfl⟩

theorem readable_join (fits : base.utf8ByteSize + 1 + name.utf8ByteSize ≤ maxPathSize) :
    ∃ location, Location.ofPath (join base name) = .ok location :=
  readable_of_size isName noNul (Nat.le_trans (size_join isName base) fits)

end

/-- The steps of a path with a name at its end. -/
theorem segments_join {base name : String} (isName : IsName name) :
    segments (join base name) = segments base ++ [name] := by
  rw [segments_join_relative isName.relative, isName.segments_eq]

/-! ## Following names -/

theorem walk_append (d : Disk) : ∀ (front back : List String) (here : Route),
    d.walk here (front ++ back) =
      match d.walk here front with
      | .error f => .error f
      | .ok route => d.walk route back
  | [], _, _ => rfl
  | name :: front, back, here => by
      simp only [List.cons_append, walk]
      split
      · rfl
      · rfl
      · split
        · exact walk_append d front back _
        · split
          · rfl
          · exact walk_append d front back _

/-- The last name of a path is looked for in a directory. -/
theorem walk_last {here route : Route} {front : List String} {name : String} (down : name ≠ "..")
    (walked : d.walk here (front ++ [name]) = .ok route) :
    ∃ parent, d.walk here front = .ok parent ∧ d.node? parent = some .directory ∧
      route = parent ++ [name] := by
  rw [walk_append] at walked
  split at walked
  · cases walked
  · next parent toParent =>
    simp only [walk, down, if_false] at walked
    split at walked
    · cases walked
    · cases walked
    · next isDirectory =>
      split at walked
      · cases walked
      · exact ⟨parent, toParent, isDirectory, (Except.ok.inj walked).symm⟩

/-- A path through names leads nowhere but to the route it spells. -/
theorem walk_ok : ∀ {names : List String} {here route : Route}, ".." ∉ names →
    d.walk here names = .ok route →
      route = here ++ names ∧ ∀ name ∈ names, name.utf8ByteSize ≤ maxNameSize
  | [], here, route, _, walked => by
      cases walked
      simp
  | name :: names, here, route, down, walked => by
      rw [List.mem_cons, not_or] at down
      simp only [walk, Ne.symm down.1, if_false] at walked
      split at walked
      · cases walked
      · cases walked
      · split at walked
        · cases walked
        · next short =>
          obtain ⟨same, others⟩ := walk_ok down.2 walked
          refine ⟨by simpa using same, fun n member => ?_⟩
          rcases List.mem_cons.1 member with rfl | member
          · exact Nat.not_lt.1 short
          · exact others n member

/-- What comes of following names to `route`. -/
inductive Walked (d : Disk) (route : Route) : Except Fault Route → Prop where
  /-- Everything above the route is a directory. -/
  | arrives (above : ∀ p, p <+: route → p ≠ route → d.node? p = some .directory) :
      Walked d route (.ok route)
  /-- The first thing that is no directory is missing. -/
  | missing {p : Route} (onWay : p <+: route) (gone : d.node? p = none)
      (above : ∀ q, q <+: p → q ≠ p → d.node? q = some .directory) :
      Walked d route (.error .notFound)
  /-- The first thing that is no directory is a file. -/
  | blocked {p : Route} {bytes : ByteArray} (onWay : p <+: route) (other : p ≠ route)
      (file : d.node? p = some (.file bytes)) : Walked d route (.error .notDirectory)

theorem walked : ∀ {names : List String} {here : Route}, ".." ∉ names →
    (∀ name ∈ names, name.utf8ByteSize ≤ maxNameSize) →
    (∀ p, p <+: here → p ≠ here → d.node? p = some .directory) →
      Walked d (here ++ names) (d.walk here names)
  | [], here, _, _, above => by
      rw [List.append_nil]
      exact .arrives above
  | name :: names, here, down, short, above => by
      rw [List.mem_cons, not_or] at down
      have fits : ¬ maxNameSize < name.utf8ByteSize :=
        Nat.not_lt.2 (short name List.mem_cons_self)
      simp only [walk, Ne.symm down.1, fits, if_false]
      split
      · next gone => exact .missing (List.prefix_append _ _) gone above
      · next file => exact .blocked (List.prefix_append _ _) (by simp) file
      · next isDirectory =>
        have above' : ∀ p, p <+: here ++ [name] → p ≠ here ++ [name] →
            d.node? p = some .directory := by
          intro p below other
          rcases List.prefix_concat_iff.1 below with same | below
          · exact absurd same other
          · by_cases same : p = here
            · rw [same]
              exact isDirectory
            · exact above p below same
        have rest := walked down.2 (fun n member => short n (List.mem_cons_of_mem name member))
          above'
        rwa [List.append_assoc] at rest

end ThemeEditor.Disk
