/-
# ThemeEditor.Proofs.Input.FlagName -- which flag names may be typed in

A flag name is 1 to 50 letters, numbers, hyphens and underscores (`IsFlagName`).  So says
the reason that is given for a longer one; but the check counts bytes, and letters and
numbers may be of any script.  A name that passes is a flag name, because each character
has at least one byte, and a flag name passes if it fits into 50 bytes
(`checkFlagName_iff`).

The two limits come to the same for ASCII names, and for names of at most 12 characters,
which four bytes each cannot make too long.  Beyond that a few accents do
(`accented_name`).
-/
import ThemeEditor.Proofs.Session.Form
import ThemeEditor.Proofs.Settings.Valid
import ThemeEditor.Proofs.Text.Bytes

namespace ThemeEditor.Input

set_option autoImplicit false

/-- At least 1 and at most 50 letters, numbers of any script, hyphens and underscores. -/
structure IsFlagName (name : List Char) : Prop where
  filled : 1 ≤ name.length
  short : name.length ≤ 50
  characters : ∀ c ∈ name, Text.isAlphanumeric c = true ∨ c = '-' ∨ c = '_'

/-! ## The check -/

theorem isFlagChar_iff {c : Char} :
    isFlagChar c = true ↔ Text.isAlphanumeric c = true ∨ c = '-' ∨ c = '_' := by
  simp only [isFlagChar, Bool.or_eq_true, decide_eq_true_eq, or_assoc]

theorem flagNameFault?_eq_none_iff (name : String) :
    flagNameFault? name = none ↔
      IsFlagName name.toList ∧ (name.toList.map Char.utf8Size).sum ≤ 50 := by
  have size : name.utf8ByteSize = (name.toList.map Char.utf8Size).sum := by
    rw [← Text.utf8ByteSize_ofList, String.ofList_toList]
  have enough := Text.length_le_size name.toList
  unfold flagNameFault?
  rw [size]
  split
  · next empty =>
    subst empty
    exact iff_of_false nofun fun ⟨isName, _⟩ => absurd isName.filled (by decide)
  · next nonempty =>
    have filled : 1 ≤ name.toList.length :=
      List.length_pos_iff.2 (mt String.toList_eq_nil_iff.1 nonempty)
    split
    · next long => exact iff_of_false nofun fun ⟨_, fits⟩ => by omega
    · next fits =>
      have short : name.toList.length ≤ 50 := by omega
      have characters : name.toList.all isFlagChar = true ↔
          ∀ c ∈ name.toList, Text.isAlphanumeric c = true ∨ c = '-' ∨ c = '_' := by
        simp only [List.all_eq_true, isFlagChar_iff]
      split
      · next all => exact iff_of_true rfl ⟨⟨filled, short, characters.1 all⟩, by omega⟩
      · next other =>
        exact iff_of_false nofun fun ⟨isName, _⟩ => other (characters.2 isName.characters)

/-- The flag names that fit are accepted, and nothing else is. -/
theorem checkFlagName_iff (name : String) :
    checkFlagName name = .ok () ↔
      IsFlagName name.toList ∧ (name.toList.map Char.utf8Size).sum ≤ 50 := by
  rw [← flagNameFault?_eq_none_iff]
  exact accepts_iff

/-- Names of one byte for each character fit if they are short, and so do names that are so short
that four bytes for each are not too many. -/
theorem size_le_of_isFlagName {name : List Char} (isName : IsFlagName name)
    (narrow : (∀ c ∈ name, c.toNat < 128) ∨ name.length ≤ 12) :
    (name.map Char.utf8Size).sum ≤ 50 := by
  rcases narrow with ascii | few
  · rw [Text.size_of_ascii ascii]
    exact isName.short
  · have most := Text.size_le name
    omega

/-- **The flag names that may be typed in.**  A name is accepted exactly when it has 1 to 50
characters, all of them alphanumeric, hyphens or underscores, and these have at most 50 bytes.
For ASCII names and names of at most 12 characters the bytes do not matter.  A form sets the flags
of the accepted names and refuses the others, whatever is to be set. -/
theorem accepted_flagNames (name : String) :
    (checkFlagName name = .ok () ↔
      IsFlagName name.toList ∧ (name.toList.map Char.utf8Size).sum ≤ 50) ∧
    ((∀ c ∈ name.toList, c.toNat < 128) ∨ name.toList.length ≤ 12 →
      (checkFlagName name = .ok () ↔ IsFlagName name.toList)) ∧
    ∀ (s : Session) (on : Bool),
      ((s.setFlag name on).result = .ok () ↔ checkFlagName name = .ok ()) ∧
        (checkFlagName name = .ok () →
          (s.setFlag name on).session.settings = s.settings.setFlag name on) ∧
        (¬ checkFlagName name = .ok () → (s.setFlag name on).session = s) := by
  refine ⟨checkFlagName_iff name, ?_, ?_⟩
  · intro narrow
    rw [checkFlagName_iff]
    exact and_iff_left_of_imp fun isName => size_le_of_isFlagName isName narrow
  · intro s on
    have edits := Session.edits_setFlag s name on
    refine ⟨?_, edits.settings, edits.refused⟩
    rw [← edits.succeeds_iff]
    exact ⟨fun done => ⟨(), done⟩, fun ⟨_, done⟩ => done⟩

/-- A name of twelve characters passes with its accents, and one with a space is refused. -/
theorem accepted_flagNames_twelve :
    "größenräume_".toList.length ≤ 12 ∧
      (checkFlagName "größenräume_" = .ok () ↔ IsFlagName "größenräume_".toList) ∧
      checkFlagName "größenräume_" = .ok () ∧
      (Session.blankSession.setFlag "größenräume_" true).session.settings =
        Session.blankSession.settings.setFlag "größenräume_" true ∧
      ¬ checkFlagName "has space" = .ok () ∧
      (Session.blankSession.setFlag "has space" true).session = Session.blankSession := by
  have few : "größenräume_".toList.length ≤ 12 := by decide
  have accepted : checkFlagName "größenräume_" = .ok () := by decide +kernel
  have rejected : ¬ checkFlagName "has space" = .ok () := by decide +kernel
  obtain ⟨-, narrow, set⟩ := accepted_flagNames "größenräume_"
  obtain ⟨-, -, unset⟩ := accepted_flagNames "has space"
  exact ⟨few, narrow (.inr few), accepted, (set Session.blankSession true).2.1 accepted, rejected,
    (unset Session.blankSession true).2.2 rejected⟩

/-- A name of 26 letters with an accent, two bytes each. -/
def accentedName : String := String.ofList (List.replicate 26 'é')

/-- It is a flag name, and it is refused for having more than 50 characters. -/
theorem accented_name :
    IsFlagName accentedName.toList ∧ accentedName.toList.length = 26 ∧
      checkFlagName accentedName =
        .error (.flagName accentedName "Name too long (max 50 characters)") ∧
      (Session.blankSession.setFlag accentedName true).session = Session.blankSession := by
  have letters : accentedName.toList = List.replicate 26 'é' := String.toList_ofList
  have count : accentedName.toList.length = 26 := by rw [letters, List.length_replicate]
  have alphanumeric : Text.isAlphanumeric 'é' = true := by decide +kernel
  have refused : checkFlagName accentedName =
      .error (.flagName accentedName "Name too long (max 50 characters)") := by decide +kernel
  have kept := (Session.edits_setFlag Session.blankSession accentedName true).refused
  refine ⟨⟨by omega, by omega, ?_⟩, count, refused, kept (by rw [refused]; nofun)⟩
  intro c member
  rw [letters] at member
  exact .inl (List.eq_of_mem_replicate member ▸ alphanumeric)

end ThemeEditor.Input
