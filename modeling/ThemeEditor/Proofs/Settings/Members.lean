/-
# ThemeEditor.Proofs.Settings.Members -- the members of a settings document

A document of settings has a member for each color role, under the role's key
(`Settings.get?_key`), and one for the accents, the flags and the address.  A member
holds what its field holds and depends on nothing else: settings that agree but for
the field of one key have documents that agree but for that member
(`Settings.AgreesBut.get?_toValue`).

A stored document read as any JSON value gives these members again
(`Settings.decode_document`).
-/
import ThemeEditor.Proofs.Json.Tree
import ThemeEditor.Proofs.Settings.Document
import ThemeEditor.Proofs.Storage.Persistence

namespace ThemeEditor

set_option autoImplicit false

open ThemeEditor.Json (Value)

/-! ## Keys -/

namespace ColorRole

theorem normalized_of_ofName? {name : String} {role : ColorRole}
    (named : ofName? name = some role) : normalized name = Text.lower role.key := by
  have found := List.find?_some named
  exact (of_decide_eq_true found).symm

end ColorRole

/-! ## Flags -/

namespace Flags

/-- The member of a flag is its value. -/
theorem get?_toValue (flags : Flags) (name : String) :
    flags.toValue.get? name = (flags.get? name).map .boolean := by
  simp only [toValue, Value.get?, get?, List.find?_map, Option.map_map]
  rfl

/-- Setting a flag leaves the members of all other flags as they are. -/
theorem get?_toValue_insert (flags : Flags) (name : String) (on : Bool) (other : String) :
    (flags.insert name on).toValue.get? other =
      if other = name then some (.boolean on) else flags.toValue.get? other := by
  rw [get?_toValue, get?_toValue, get?_insert]
  split <;> rfl

theorem nested_toValue (depth : Nat) (flags : Flags) : Value.Nested (depth + 1) flags.toValue := by
  refine .object ?_ ?_
  · rw [List.map_map]
    exact (List.pairwise_map.2 flags.ordered).imp String.ne_of_lt
  · intro m among
    obtain ⟨e, -, rfl⟩ := List.mem_map.1 among
    exact .boolean depth e.2

end Flags

namespace Settings

/-! ## Members -/

theorem get?_key (s : Settings) (role : ColorRole) :
    s.toValue.get? role.key = some (s.color role).toValue := by
  cases role <;> rfl

theorem get?_accents (s : Settings) :
    s.toValue.get? "accentColors" = some (.list (s.accents.map Color.toValue)) := rfl

theorem get?_flags (s : Settings) : s.toValue.get? "featureFlags" = some s.flags.toValue := rfl

theorem get?_backendUrl (s : Settings) : s.toValue.get? "backendUrl" = some (.text s.backendUrl) :=
  rfl

/-- Settings that agree in all fields but the one that is stored under a key. -/
structure AgreesBut (key : String) (s t : Settings) : Prop where
  color : ∀ role : ColorRole, role.key ≠ key → t.color role = s.color role
  accents : "accentColors" ≠ key → t.accents = s.accents
  flags : "featureFlags" ≠ key → t.flags = s.flags
  backendUrl : "backendUrl" ≠ key → t.backendUrl = s.backendUrl

/-- Members that agree but for one key give the same value to every other key. -/
theorem find?_of_agree {key other : String} (ne : other ≠ key) {ms ms' : List (String × Value)}
    (agree : List.Forall₂ (fun m m' => m.1 = m'.1 ∧ (m.1 ≠ key → m = m')) ms ms') :
    (ms.find? fun m => m.1 = other) = ms'.find? fun m => m.1 = other := by
  induction agree with
  | nil => rfl
  | @cons m m' _ _ first _ ih =>
      obtain ⟨sameKey, same⟩ := first
      by_cases here : m.1 = other
      · have unchanged : m.1 ≠ key := here ▸ ne
        rw [← same unchanged, List.find?_cons_of_pos (by simpa using here),
          List.find?_cons_of_pos (by simpa using here)]
      · have elsewhere : m'.1 ≠ other := sameKey ▸ here
        rw [List.find?_cons_of_neg (by simpa using here),
          List.find?_cons_of_neg (by simpa using elsewhere), ih]

/-- Settings that agree but for one key have documents that agree but for its member. -/
theorem AgreesBut.get?_toValue {key other : String} {s t : Settings} (agrees : AgreesBut key s t)
    (ne : other ≠ key) : t.toValue.get? other = s.toValue.get? other := by
  rw [toValue_eq, toValue_eq]
  refine congrArg (Option.map Prod.snd) (find?_of_agree ne ?_)
  refine List.rel_append ?_ (.cons ⟨rfl, ?_⟩ (.cons ⟨rfl, ?_⟩ (.cons ⟨rfl, ?_⟩ .nil)))
  · rw [List.forall₂_map_left_iff, List.forall₂_map_right_iff]
    refine List.forall₂_same.2 fun role _ => ⟨rfl, ?_⟩
    intro unchanged
    rw [agrees.color role unchanged]
  · intro unchanged
    rw [agrees.accents unchanged]
  · intro unchanged
    rw [agrees.flags unchanged]
  · intro unchanged
    rw [agrees.backendUrl unchanged]

/-! ## Edits of one field -/

theorem agreesBut_setColor (s : Settings) (role : ColorRole) (c : Color) :
    AgreesBut role.key s (s.setColor role c) := by
  obtain ⟨accents, flags, backendUrl⟩ := setColor_rest s role c
  refine ⟨?_, fun _ => accents, fun _ => flags, fun _ => backendUrl⟩
  intro other ne
  have apart : other ≠ role := fun same => ne (congrArg ColorRole.key same)
  rw [color_setColor, if_neg apart]

theorem agreesBut_accents (s : Settings) (accents : List Color) :
    AgreesBut "accentColors" s { s with accents } where
  color role _ := by cases role <;> rfl
  accents other := absurd rfl other
  flags _ := rfl
  backendUrl _ := rfl

theorem agreesBut_setFlag (s : Settings) (name : String) (on : Bool) :
    AgreesBut "featureFlags" s (s.setFlag name on) where
  color role _ := by cases role <;> rfl
  accents _ := rfl
  flags other := absurd rfl other
  backendUrl _ := rfl

theorem agreesBut_backendUrl (s : Settings) (backendUrl : String) :
    AgreesBut "backendUrl" s { s with backendUrl } where
  color role _ := by cases role <;> rfl
  accents _ := rfl
  flags _ := rfl
  backendUrl other := absurd rfl other

/-! ## Documents -/

theorem nested_toValue (depth : Nat) (s : Settings) : Value.Nested (depth + 2) s.toValue := by
  rw [toValue_eq]
  refine .object ?_ ?_
  · exact nodup_fieldTexts
  · intro m among
    rcases List.mem_append.1 among with color | other
    · obtain ⟨role, -, rfl⟩ := List.mem_map.1 color
      exact .text _ _
    · simp only [otherMembers, List.mem_cons, List.not_mem_nil, or_false] at other
      rcases other with rfl | rfl | rfl
      · refine .list ?_
        intro v listed
        obtain ⟨c, -, rfl⟩ := List.mem_map.1 listed
        exact .text depth c.text
      · exact Flags.nested_toValue depth s.flags
      · exact .text _ _

/-- A stored document, read as any value, has the members of its settings. -/
theorem decode_document (s : Settings) : Value.decode s.encodeIndented = .ok s.toValue :=
  Value.decode_indented (nested_toValue 125 s)

end Settings

end ThemeEditor
