/-
# ThemeEditor.Proofs.Config.Find -- where the configuration file is looked for

The configuration file is looked for from the root: the path of the working directory
is put in front of its own.  That changes nothing about what the path leads to, except
that it may become too long (`readBytes_rooted`).  So where there is neither the file
nor a sibling, none is found (`find_of_absent`); and where the file is read, it is
found, unless its path is too long, and then so are those of its siblings
(`find_of_readBytes`).

All this is so in a working directory whose route consists of names.  What is read of a
text that was found is the text itself, unless it begins with a byte order mark
(`lossy_withoutMark`).
-/
import ThemeEditor.Config.Load
import ThemeEditor.Proofs.Disk.Presence

namespace ThemeEditor.Config

set_option autoImplicit false

open Disk (IsName Location segments join)

/-! ## From the root -/

/-- The path of a route of names leads to that route. -/
theorem segments_pathOf {route : Disk.Route} (names : ∀ name ∈ route, IsName name) :
    segments (pathOf route) = route := by
  have root : pathOf route = "" ++ "/" ++ "/".intercalate route := by
    rw [pathOf, String.empty_append]
  rw [root, Disk.segments_slash, Disk.segments_empty, List.nil_append]
  cases route with
  | nil => decide
  | cons name rest =>
      have split : ((("/".intercalate (name :: rest)).toList).splitOn '/') =
          (name :: rest).map String.toList := by
        rw [String.toList_intercalate]
        refine List.splitOn_intercalate '/' (fun l member => ?_) (by simp)
        obtain ⟨n, inside, rfl⟩ := List.mem_map.1 member
        exact (names n inside).noSlash
      have back : (String.ofList ∘ String.toList) = id := funext fun n => String.ofList_toList
      rw [segments, Disk.pieces, split, List.map_map, back, List.map_id]
      refine List.filter_eq_self.2 fun n inside => ?_
      rw [(names n inside).steps]
      rfl

variable {d : Disk} {directory name : String} {bytes : ByteArray}

/-- A path from the root starts there. -/
theorem start_rooted (directory : String) : d.start (join (pathOf d.current) directory) = [] := by
  have rooted : Disk.isAbsolute (join (pathOf d.current) directory) = true := by
    cases absolute : Disk.isAbsolute directory with
    | true => rw [join, absolute, if_pos rfl, absolute]
    | false =>
        rw [Disk.join_of_relative absolute]
        simp [Disk.isAbsolute, pathOf]
  rw [Disk.start, rooted, if_pos rfl]

section

variable (names : ∀ name ∈ d.current, IsName name)

include names

/-- A path from the root takes the steps that the path spells. -/
theorem segments_rooted (directory : String) :
    segments (join (pathOf d.current) directory) = d.spelled directory := by
  cases absolute : Disk.isAbsolute directory with
  | true => rw [join, absolute, if_pos rfl, Disk.spelled, Disk.start, absolute]; rfl
  | false =>
      rw [Disk.segments_join_relative absolute, segments_pathOf names, Disk.spelled, Disk.start,
        absolute]
      rfl

/-- Whoever gets somewhere from the root passes where the path starts. -/
theorem walk_rooted {rest : List String} {route : Disk.Route} (path : String) :
    d.walk [] (d.start path ++ rest) = .ok route ↔
      d.walk [] (d.start path) = .ok (d.start path) ∧ d.walk (d.start path) rest = .ok route := by
  have down : ".." ∉ d.start path := by
    unfold Disk.start
    split
    · exact List.not_mem_nil
    · exact fun member => (names ".." member).down rfl
  rw [Disk.walk_append]
  cases led : d.walk [] (d.start path) with
  | error f => simp
  | ok here =>
      have same : here = d.start path := (Disk.walk_ok down led).1
      simp [same]

omit names in
/-- The part of a path from the root can be read when that path can. -/
theorem ofPath_of_rooted (isName : IsName name) {location : Location}
    (read : Location.ofPath (join (pathOf d.current) (join directory name)) = .ok location) :
    ∃ location, Location.ofPath (join directory name) = .ok location := by
  cases absolute : Disk.isAbsolute (join directory name) with
  | true =>
      rw [join, absolute, if_pos rfl] at read
      exact ⟨location, read⟩
  | false =>
      rw [Disk.join_of_relative absolute] at read
      have whole : pathOf d.current ++ Disk.separator (pathOf d.current) ++ join directory name =
          pathOf d.current ++ Disk.separator (pathOf d.current) ++ join directory name ++ "" :=
        String.append_empty.symm
      exact Disk.ofPath_of_part (whole ▸ read) (Disk.join_ne_empty isName directory)

/-- What a path from the root leads to is what the path itself leads to, if the longer path can be
read and there is a way to where the path starts. -/
theorem readBytes_rooted (isName : IsName name) :
    d.readBytes (join (pathOf d.current) (join directory name)) = .ok bytes ↔
      (∃ location, Location.ofPath (join (pathOf d.current) (join directory name)) = .ok location) ∧
        d.walk [] (d.start directory) = .ok (d.start directory) ∧
        d.readBytes (join directory name) = .ok bytes := by
  cases read : Location.ofPath (join (pathOf d.current) (join directory name)) with
  | error f => simp [Disk.readBytes_of_ofPath_error read]
  | ok location =>
      obtain ⟨location', read'⟩ := ofPath_of_rooted isName read
      rw [Disk.join_join isName] at read ⊢
      rw [Disk.readBytes_join_iff isName read, Disk.readBytes_join_iff isName read', start_rooted,
        segments_rooted names, Disk.spelled, List.append_assoc]
      simp only [walk_rooted names, and_assoc, exists_and_left, Except.ok.injEq, exists_eq',
        true_and]

end

/-! ## The file that is found -/

theorem isFile_iff {path : String} : isFile d path = true ↔ ∃ bytes, d.readBytes path = .ok bytes := by
  unfold isFile Disk.readBytes
  rcases d.lookup path with _ | ⟨route, _ | _ | _⟩ <;> simp

theorem exists?_of_readBytes {path : String} (there : d.readBytes path = .ok bytes) :
    d.exists? path = true :=
  Disk.exists?_iff.2 ⟨_, Disk.readBytes_iff.1 there⟩

/-- The name of the configuration file. -/
theorem isName_standard : IsName "config.toml" :=
  ⟨by decide, by decide, by decide⟩

theorem isName_sibling {e : String × Format} (member : e ∈ extensions) :
    IsName ("config.toml" ++ "." ++ e.1) := by
  simp only [extensions, List.mem_cons, List.not_mem_nil, or_false] at member
  rcases member with rfl | rfl | rfl | rfl | rfl | rfl | rfl <;>
    exact ⟨by decide, by decide, by decide⟩

/-- The last name of a path with a name at its end. -/
theorem fileName_join (isName : IsName name) (base : String) : fileName (join base name) = name := by
  have steps : (Disk.pieces (join base name)).filter (fun p => !Disk.isStay p) =
      segments base ++ [name] := Disk.segments_join isName
  rw [fileName, steps]
  simp

theorem extension?_standard (base : String) :
    extension? (join base "config.toml") = some "toml" := by
  rw [extension?, fileName_join isName_standard]
  decide

/-- The name of a sibling is put behind the path of the file. -/
theorem join_sibling {e : String × Format} (member : e ∈ extensions) (base : String) :
    join base ("config.toml" ++ "." ++ e.1) = join base "config.toml" ++ "." ++ e.1 := by
  rw [Disk.join_of_relative (isName_sibling member).relative,
    Disk.join_of_relative isName_standard.relative]
  simp only [String.append_assoc]

/-- What is tried for the configuration file are its siblings. -/
theorem candidates_standard {base : String} {c : String × Format}
    (member : c ∈ candidates (join base "config.toml")) :
    ∃ e ∈ extensions, c.1 = join base ("config.toml" ++ "." ++ e.1) := by
  have last : fromLastName (join base "config.toml").toList.reverse =
      (join base "config.toml").toList.reverse := by
    rw [Disk.join_of_relative isName_standard.relative]
    simp [fromLastName]
  unfold candidates at member
  rw [last, List.reverse_reverse] at member
  dsimp only at member
  rw [String.ofList_toList] at member
  split at member
  · cases member
  · obtain ⟨e, inside, rfl⟩ := List.mem_map.1 member
    exact ⟨e, inside, (join_sibling inside base).symm⟩

section

variable (names : ∀ name ∈ d.current, IsName name)

include names

/-- Where there is neither the file nor a sibling, none is found. -/
theorem find_of_absent
    (absent : d.exists? (join directory "config.toml") = false)
    (alone : ∀ e ∈ extensions, d.exists? (join directory ("config.toml" ++ "." ++ e.1)) = false) :
    ∃ e, find d (join directory "config.toml") = .error e := by
  have unfound : ∀ {n}, IsName n → d.exists? (join directory n) = false →
      isFile d (join (pathOf d.current) (join directory n)) = false := by
    intro n isName gone
    by_contra found
    obtain ⟨bytes, there⟩ := isFile_iff.1 (Bool.not_eq_false _ ▸ found)
    rw [exists?_of_readBytes ((readBytes_rooted names isName).1 there).2.2] at gone
    cases gone
  have none : (candidates (join (pathOf d.current) (join directory "config.toml"))).find?
      (fun c => isFile d c.1) = none := by
    refine List.find?_eq_none.2 fun c member found => ?_
    rw [Disk.join_join isName_standard] at member
    obtain ⟨e, inside, same⟩ := candidates_standard member
    rw [same, ← Disk.join_join (isName_sibling inside),
      unfound (isName_sibling inside) (alone e inside)] at found
    cases found
  unfold find
  simp only [unfound isName_standard absent, none, Bool.false_eq_true, if_false]
  exact ⟨_, rfl⟩

/-- Where the file is read, it is found or none is. -/
theorem find_of_readBytes (there : d.readBytes (join directory "config.toml") = .ok bytes) :
    (∃ full, find d (join directory "config.toml") = .ok (full, .toml) ∧
        d.readBytes full = .ok bytes) ∨
      ∃ e, find d (join directory "config.toml") = .error e := by
  by_cases found : isFile d (join (pathOf d.current) (join directory "config.toml")) = true
  · refine .inl ⟨join (pathOf d.current) (join directory "config.toml"), ?_, ?_⟩
    · unfold find
      simp only [found, if_true]
      rw [Disk.join_join isName_standard, extension?_standard]
      rfl
    · obtain ⟨bytes', read⟩ := isFile_iff.1 found
      have same := ((readBytes_rooted names isName_standard).1 read).2.2
      rw [there] at same
      rw [read, same]
  · refine .inr ?_
    -- a sibling cannot be reached either, for its path is longer
    have none : (candidates (join (pathOf d.current) (join directory "config.toml"))).find?
        (fun c => isFile d c.1) = none := by
      refine List.find?_eq_none.2 fun c member sibling => found ?_
      rw [Disk.join_join isName_standard] at member
      obtain ⟨e, inside, same⟩ := candidates_standard member
      have longer := join_sibling inside (join (pathOf d.current) directory)
      obtain ⟨bytes', read⟩ := isFile_iff.1 sibling
      rw [same, ← Disk.join_join (isName_sibling inside)] at read
      obtain ⟨⟨location, path⟩, led, -⟩ := (readBytes_rooted names (isName_sibling inside)).1 read
      have shorter : ∃ location, Location.ofPath
          (join (pathOf d.current) (join directory "config.toml")) = .ok location := by
        rw [Disk.join_join isName_standard]
        rw [Disk.join_join (isName_sibling inside), longer, String.append_assoc,
          ← String.empty_append (s := join _ _)] at path
        exact Disk.ofPath_of_part path (Disk.join_ne_empty isName_standard _)
      exact isFile_iff.2
        ⟨bytes, (readBytes_rooted names isName_standard).2 ⟨shorter, led, there⟩⟩
    unfold find
    simp only [found, none, Bool.false_eq_true, if_false]
    exact ⟨_, rfl⟩

end

/-! ## Reading what was found -/

/-- The bytes of a text are read as that text, if they do not begin with a byte order mark. -/
theorem lossy_withoutMark {text : String}
    (unmarked : text.toUTF8.toList.take 3 ≠ [0xEF, 0xBB, 0xBF]) :
    Text.lossy (withoutMark text.toUTF8) = text := by
  rw [withoutMark, if_neg unmarked, Text.lossy, Disk.fromUTF8?_eq_some.2 rfl]

end ThemeEditor.Config
