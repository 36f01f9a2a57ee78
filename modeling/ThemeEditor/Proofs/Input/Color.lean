/-
# ThemeEditor.Proofs.Input.Color -- which colors may be typed in

A color is a number sign with 3, 4, 6 or 8 hexadecimal digits (`IsHex`), or one of the
names.  The check counts bytes, and digits are one byte each (`hexFault?_eq_none_iff`).  It
compares names without regard to letter case, and that is the letter case of Unicode:
besides the capital of each letter it takes the Kelvin sign for a `k`
(`lowerChar_eq_iff`), so that an accepted color need not be ASCII
(`kelvin_black`).

`accepted_colors` says all of it, and that a form takes no other color.
-/
import Mathlib.Data.Bool.AllAny
import ThemeEditor.Proofs.Session.Form
import ThemeEditor.Proofs.Settings.Valid
import ThemeEditor.Proofs.Text.Bytes
import ThemeEditor.Proofs.Text.LowerCase

namespace ThemeEditor.Input

set_option autoImplicit false

open ThemeEditor.Text (Lowered kelvin lowerChar lowered_iff of_ascii)

/-! ## Digits -/

/-- The hexadecimal digits. -/
def hexDigits : List Char := "0123456789abcdefABCDEF".toList

/-- A number sign with 3, 4, 6 or 8 hexadecimal digits. -/
def IsHex (color : List Char) : Prop :=
  ∃ digits, color = '#' :: digits ∧ digits.length ∈ [3, 4, 6, 8] ∧ ∀ c ∈ digits, c ∈ hexDigits

theorem ascii_of_isHexDigit {c : Char} (isDigit : isHexDigit c = true) : c.toNat < 128 := by
  have bound : ∀ {d : Char}, c ≤ d → c.toNat ≤ d.toNat := UInt32.le_iff_toNat_le.1
  simp only [isHexDigit, Bool.or_eq_true, Bool.and_eq_true, decide_eq_true_eq] at isDigit
  rcases isDigit with (⟨-, nine⟩ | ⟨-, f⟩) | ⟨-, f⟩
  · exact Nat.lt_of_le_of_lt (bound nine) (by decide)
  · exact Nat.lt_of_le_of_lt (bound f) (by decide)
  · exact Nat.lt_of_le_of_lt (bound f) (by decide)

-- evaluated member by member: deciding it as it stands could go through all characters
theorem ascii_of_mem_hexDigits : ∀ c ∈ hexDigits, c.toNat < 128 :=
  List.all_iff_forall_prop.1 (by decide)

theorem isHexDigit_iff {c : Char} : isHexDigit c = true ↔ c ∈ hexDigits := by
  have same : c.toNat < 128 → (isHexDigit c = true ↔ c ∈ hexDigits) :=
    of_ascii (P := fun c => isHexDigit c = true ↔ c ∈ hexDigits) (by decide +kernel)
  constructor
  · exact fun isDigit => (same (ascii_of_isHexDigit isDigit)).1 isDigit
  · exact fun isDigit => (same (ascii_of_mem_hexDigits c isDigit)).2 isDigit

/-- Digits are one byte each, so their bytes are as many as they are. -/
theorem hexFault?_eq_none_iff {digits : List Char} :
    hexFault? digits = none ↔
      digits.length ∈ [3, 4, 6, 8] ∧ ∀ c ∈ digits, c ∈ hexDigits := by
  have all : digits.all isHexDigit = true ↔ ∀ c ∈ digits, c ∈ hexDigits := by
    simp only [List.all_eq_true, isHexDigit_iff]
  have size : (∀ c ∈ digits, c ∈ hexDigits) →
      (String.ofList digits).utf8ByteSize = digits.length := by
    intro isDigit
    rw [Text.utf8ByteSize_ofList]
    exact Text.size_of_ascii fun c member => ascii_of_mem_hexDigits c (isDigit c member)
  unfold hexFault?
  split
  · next wrong =>
    refine ⟨nofun, fun ⟨count, isDigit⟩ => ?_⟩
    rw [size isDigit] at wrong
    exact absurd count wrong
  · next count =>
    split
    · next digit =>
      have isDigit := all.1 digit
      rw [size isDigit, not_not] at count
      exact ⟨fun _ => ⟨count, isDigit⟩, fun _ => rfl⟩
    · next other => exact ⟨nofun, fun ⟨_, isDigit⟩ => absurd (all.2 isDigit) other⟩

/-! ## Names -/

/-- A letter, small or capital. -/
def SameLetter (c d : Char) : Prop :=
  c = d ∨ c = d.toUpper

/-- The letters of a name, each of them small or capital. -/
def Variant : List Char → List Char → Prop :=
  List.Forall₂ SameLetter

/-- The letters of a name, each of them small or capital, with the Kelvin sign for any `k`. -/
def Spells : List Char → List Char → Prop :=
  List.Forall₂ fun c d => SameLetter c d ∨ c = kelvin ∧ d = 'k'

/-- The small ASCII letters. -/
def smallLetters : List Char := "abcdefghijklmnopqrstuvwxyz".toList

theorem smallLetters_of_name : ∀ name ∈ namedColors, ∀ d ∈ name.toList, d ∈ smallLetters := by
  have all : ∀ name ∈ namedColors, (name.toList.all fun d => d ∈ smallLetters) = true := by
    decide +kernel
  exact fun name named => List.all_iff_forall_prop.1 (all name named)

theorem ascii_of_smallLetters : ∀ d ∈ smallLetters, d.toNat < 128 ∧ d.toUpper.toNat < 128 :=
  List.all_iff_forall_prop.1 (by decide)

/-- What becomes a small ASCII letter is that letter, its capital, or the Kelvin sign. -/
theorem lowerChar_eq_iff {c d : Char} (small : d ∈ smallLetters) :
    lowerChar c = d ↔ SameLetter c d ∨ c = kelvin ∧ d = 'k' := by
  constructor
  · rintro rfl
    by_cases isKelvin : c = kelvin
    · exact .inr ⟨isKelvin, if_pos isKelvin⟩
    · by_cases ascii : c.toNat < 128
      · exact .inl (of_ascii (P := fun c => lowerChar c ∈ smallLetters →
          c = lowerChar c ∨ c = (lowerChar c).toUpper) (by decide +kernel) ascii small)
      · exact .inl (.inl (Text.lowerChar_of_outside (by omega) isKelvin).symm)
  · have letters : ∀ d ∈ smallLetters, lowerChar d = d ∧ lowerChar d.toUpper = d :=
      List.all_iff_forall_prop.1 (by decide +kernel)
    rintro ((rfl | rfl) | ⟨rfl, rfl⟩)
    · exact (letters c small).1
    · exact (letters d small).2
    · rfl

theorem forall₂_congr {α β : Type} {R S : α → β → Prop} : ∀ {as : List α} {bs : List β},
    (∀ b ∈ bs, ∀ a, R a b ↔ S a b) → (List.Forall₂ R as bs ↔ List.Forall₂ S as bs)
  | [], [], _ => iff_of_true .nil .nil
  | [], _ :: _, _ => iff_of_false nofun nofun
  | _ :: _, [], _ => iff_of_false nofun nofun
  | a :: as, b :: bs, each => by
      rw [List.forall_mem_cons] at each
      rw [List.forall₂_cons, List.forall₂_cons, each.1, forall₂_congr each.2]

variable {cs word : List Char}

theorem spells_iff (small : ∀ d ∈ word, d ∈ smallLetters) :
    Spells cs word ↔ cs.map lowerChar = word := by
  have letters : Spells cs word ↔ List.Forall₂ (fun c d => lowerChar c = d) cs word :=
    forall₂_congr fun d member c => (lowerChar_eq_iff (small d member)).symm
  rw [letters, ← List.forall₂_map_left_iff, List.forall₂_eq_eq_eq]

/-- What every spelling of a small letter has, all characters of a spelling have. -/
theorem Spells.forall {P : Char → Prop} (spells : Spells cs word)
    (small : ∀ d ∈ word, d ∈ smallLetters) (letters : ∀ d ∈ smallLetters, P d ∧ P d.toUpper)
    (sign : P kelvin) : ∀ c ∈ cs, P c := by
  have each : ∀ d ∈ word, ∀ c, (SameLetter c d ∨ c = kelvin ∧ d = 'k') ↔
      P c ∧ (SameLetter c d ∨ c = kelvin ∧ d = 'k') := by
    intro d member c
    refine (and_iff_right_of_imp ?_).symm
    rintro ((rfl | rfl) | ⟨rfl, -⟩)
    · exact (letters c (small c member)).1
    · exact (letters d (small d member)).2
    · exact sign
  exact (List.forall₂_and_left cs word).1 ((forall₂_congr each).1 spells) |>.1

/-- Without the Kelvin sign, what spells a name differs from it in letter case only. -/
theorem variant_iff (small : ∀ d ∈ word, d ∈ smallLetters) :
    Variant cs word ↔ Spells cs word ∧ kelvin ∉ cs := by
  have none : kelvin ∉ cs ↔ ∀ c ∈ cs, c ≠ kelvin :=
    ⟨fun absent c member isKelvin => absent (isKelvin ▸ member),
      fun others member => others kelvin member rfl⟩
  rw [none, and_comm, Spells, ← List.forall₂_and_left]
  refine forall₂_congr fun d member c => ?_
  have ascii := ascii_of_smallLetters d (small d member)
  constructor
  · intro same
    refine ⟨?_, .inl same⟩
    rintro rfl
    rcases same with rfl | isUpper
    · exact absurd ascii.1 (by decide)
    · exact absurd (isUpper ▸ ascii.2) (by decide)
  · rintro ⟨other, same | ⟨isKelvin, -⟩⟩
    · exact same
    · exact absurd isKelvin other

/-! ## The check -/

/-- A text that spells one of the names. -/
def SpellsName (color : List Char) : Prop :=
  ∃ name ∈ namedColors, Spells color name.toList

theorem lower_mem_iff (value : String) :
    Text.lower value ∈ namedColors ↔ SpellsName value.toList := by
  have each : ∀ name ∈ namedColors,
      Spells value.toList name.toList ↔ Text.lower value = name := by
    intro name named
    rw [spells_iff (smallLetters_of_name name named), Text.lower, ← String.toList_inj,
      String.toList_ofList]
  constructor
  · exact fun named => ⟨_, named, (each _ named).2 rfl⟩
  · rintro ⟨name, named, spells⟩
    rwa [(each name named).1 spells]

/-- What spells a name is not blank and begins with no number sign. -/
theorem SpellsName.cons {color : List Char} (spells : SpellsName color) :
    ∃ c rest, color = c :: rest ∧ Text.isBlank c = false ∧ c ≠ '#' := by
  obtain ⟨name, named, spells⟩ := spells
  have letters : ∀ c ∈ color, Text.isBlank c = false ∧ c ≠ '#' :=
    spells.forall (smallLetters_of_name name named)
      (List.all_iff_forall_prop.1 (by decide +kernel)) (by decide)
  have nonempty : ∀ name ∈ namedColors, name.toList ≠ [] := by decide +kernel
  cases color with
  | nil => exact absurd (List.forall₂_nil_left_iff.1 spells) (nonempty name named)
  | cons c rest => exact ⟨c, rest, rfl, letters c List.mem_cons_self⟩

theorem colorFault?_eq_none_iff (value : String) :
    colorFault? value = none ↔ IsHex value.toList ∨ SpellsName value.toList := by
  unfold colorFault?
  split
  · next blank =>
    refine iff_of_false nofun ?_
    rw [List.all_eq_true] at blank
    rintro (⟨digits, isHex, -⟩ | spells)
    · exact absurd (blank '#' (by rw [isHex]; exact List.mem_cons_self)) (by decide)
    · obtain ⟨c, rest, same, notBlank, -⟩ := spells.cons
      have isBlank := blank c (by rw [same]; exact List.mem_cons_self)
      rw [notBlank] at isBlank
      cases isBlank
  · split
    · next digits isHex =>
      rw [hexFault?_eq_none_iff, isHex]
      constructor
      · exact fun fits => .inl ⟨digits, rfl, fits⟩
      · rintro (⟨digits', same, fits⟩ | spells)
        · rwa [(List.cons.inj same).2]
        · obtain ⟨c, rest, same, -, notHex⟩ := spells.cons
          exact absurd (List.cons.inj same).1.symm notHex
    · next noHex =>
      have notHex : ¬ IsHex value.toList := fun ⟨digits, isHex, _⟩ => noHex digits isHex
      rw [or_iff_right notHex, ← lower_mem_iff]
      split
      · next named => exact iff_of_true rfl named
      · next other => exact iff_of_false nofun other

theorem checkColor_iff (value : String) :
    checkColor value = .ok () ↔ IsHex value.toList ∨ SpellsName value.toList := by
  rw [← colorFault?_eq_none_iff]
  exact accepts_iff

/-! ## What is documented -/

/-- A number sign with digits, or one of the names in whatever letter case. -/
def Documented (color : List Char) : Prop :=
  IsHex color ∨ ∃ name ∈ namedColors, Variant color name.toList

theorem IsHex.ascii {color : List Char} (isHex : IsHex color) : ∀ c ∈ color, c.toNat < 128 := by
  obtain ⟨digits, rfl, -, isDigit⟩ := isHex
  rw [List.forall_mem_cons]
  exact ⟨by decide, fun c member => ascii_of_mem_hexDigits c (isDigit c member)⟩

theorem documented_iff {color : List Char} :
    Documented color ↔ (IsHex color ∨ SpellsName color) ∧ kelvin ∉ color := by
  have names : (∃ name ∈ namedColors, Variant color name.toList) ↔
      SpellsName color ∧ kelvin ∉ color := by
    constructor
    · rintro ⟨name, named, variant⟩
      obtain ⟨spells, absent⟩ := (variant_iff (smallLetters_of_name name named)).1 variant
      exact ⟨⟨name, named, spells⟩, absent⟩
    · rintro ⟨⟨name, named, spells⟩, absent⟩
      exact ⟨name, named, (variant_iff (smallLetters_of_name name named)).2 ⟨spells, absent⟩⟩
  have noSign : IsHex color → kelvin ∉ color := fun isHex member =>
    absurd (isHex.ascii kelvin member) (by decide)
  rw [Documented, names]
  tauto

/-- An accepted color is ASCII but for Kelvin signs. -/
theorem ascii_or_kelvin {value : String} (accepted : checkColor value = .ok ()) :
    ∀ c ∈ value.toList, c.toNat < 128 ∨ c = kelvin := by
  obtain isHex | ⟨name, named, spells⟩ := (checkColor_iff value).1 accepted
  · exact fun c member => .inl (isHex.ascii c member)
  · refine spells.forall (smallLetters_of_name name named) (fun d small => ?_) (.inr rfl)
    obtain ⟨ascii, ascii'⟩ := ascii_of_smallLetters d small
    exact ⟨.inl ascii, .inl ascii'⟩

/-- **The colors that may be typed in.**  A text is accepted exactly when it is a number sign with
3, 4, 6 or 8 hexadecimal digits or, in lower case as Unicode has it, one of the names.  These are
the documented colors and those that have a Kelvin sign for a `k`, which alone is not ASCII.  A
form takes nothing else for a color. -/
theorem accepted_colors (value : String) :
    (checkColor value = .ok () ↔
      IsHex value.toList ∨ ∃ name ∈ namedColors, Lowered value.toList name.toList) ∧
    (Documented value.toList ↔ checkColor value = .ok () ∧ kelvin ∉ value.toList) ∧
    (checkColor value = .ok () → ∀ c ∈ value.toList, c.toNat < 128 ∨ c = kelvin) ∧
    ∀ s : Session, ¬ checkColor value = .ok () →
      (∀ role, (s.setColor role value).session = s) ∧
        (∀ index, (s.setAccent index value).session = s) ∧ (s.pushAccent value).session = s := by
  have names : SpellsName value.toList ↔
      ∃ name ∈ namedColors, Lowered value.toList name.toList := by
    refine exists_congr fun name => and_congr_right fun named => ?_
    have small := smallLetters_of_name name named
    rw [lowered_iff fun d member => (ascii_of_smallLetters d (small d member)).1, spells_iff small]
  refine ⟨?_, ?_, ascii_or_kelvin, ?_⟩
  · rw [← names, checkColor_iff]
  · rw [documented_iff, checkColor_iff]
  · intro s rejected
    exact ⟨fun role => (Session.edits_setColor s role value).refused rejected,
      fun index => (Session.edits_setAccent s index value).refused fun ⟨accepted, _⟩ =>
        rejected accepted,
      (Session.edits_pushAccent s value).refused rejected⟩

/-- A spelling with a Kelvin sign is accepted, and a number sign with five digits is refused. -/
theorem accepted_colors_pink :
    (checkColor "Pin\u212a" = .ok () ∧
      ∀ c ∈ "Pin\u212a".toList, c.toNat < 128 ∨ c = kelvin) ∧
    ¬ checkColor "#12345" = .ok () ∧
      (Session.blankSession.pushAccent "#12345").session = Session.blankSession := by
  have accepted : checkColor "Pin\u212a" = .ok () := by decide +kernel
  have rejected : ¬ checkColor "#12345" = .ok () := by decide +kernel
  exact ⟨⟨accepted, (accepted_colors "Pin\u212a").2.2.1 accepted⟩, rejected,
    ((accepted_colors "#12345").2.2.2 Session.blankSession rejected).2.2⟩

/-- A name with a Kelvin sign is accepted and set, although it is none of the documented colors. -/
theorem kelvin_black :
    checkColor "blac\u212a" = .ok () ∧ ¬ Documented "blac\u212a".toList ∧
      (∃ c ∈ "blac\u212a".toList, 128 ≤ c.toNat) ∧
      (Session.blankSession.setColor .foreground "blac\u212a").session.settings.foreground =
        ⟨"blac\u212a"⟩ := by
  have sign : kelvin ∈ "blac\u212a".toList := by decide
  refine ⟨by decide +kernel, ?_, ⟨kelvin, sign, by decide⟩, by decide +kernel⟩
  intro documented
  exact (documented_iff.1 documented).2 sign

end ThemeEditor.Input
