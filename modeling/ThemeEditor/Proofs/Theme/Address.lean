/-
# ThemeEditor.Proofs.Theme.Address -- the addresses of theme files

The address of a theme file is the configured one without the slashes at its end
(`IsStem`), a slash, and the path of the file, whose number has two digits
(`twoDigits_eq`).

What is asked of a configured address is how it begins, and what is taken from it is how
it ends.  The two regions meet where only slashes stand behind the scheme: there the
scheme itself is cut.  So the address of a file names a host exactly when the configured
one does (`namesHost_url_iff`), and not every configured one that is accepted does
(`hostless_address`).
-/
import Mathlib.Data.List.DropRight
import ThemeEditor.Proofs.Config.Limits
import ThemeEditor.Theme.File

namespace ThemeEditor

set_option autoImplicit false

namespace ThemeFile

/-! ## The slashes at the end -/

/-- A text is another one with some slashes behind it, and that one ends in none. -/
structure IsStem (base stem : List Char) : Prop where
  slashes : ∃ n, base = stem ++ List.replicate n '/'
  last : stem.getLast? ≠ some '/'

theorem toList_withoutSlashes (base : String) :
    (withoutSlashes base).toList = base.toList.rdropWhile (· = '/') :=
  String.toList_ofList

theorem isStem_withoutSlashes (base : String) :
    IsStem base.toList (withoutSlashes base).toList := by
  rw [toList_withoutSlashes]
  constructor
  · refine ⟨(base.toList.rtakeWhile (· = '/')).length, ?_⟩
    have slashes : base.toList.rtakeWhile (· = '/') =
        List.replicate (base.toList.rtakeWhile (· = '/')).length '/' := by
      refine List.eq_replicate_of_mem fun c member => ?_
      simpa using List.mem_rtakeWhile_imp member
    rw [← slashes, List.rdropWhile_append_rtakeWhile]
  · intro last
    have nonempty : base.toList.rdropWhile (· = '/') ≠ [] := by
      intro none
      rw [none] at last
      cases last
    have not := List.rdropWhile_last_not (· = '/') base.toList nonempty
    rw [List.getLast?_eq_some_getLast nonempty] at last
    exact not (by simpa using Option.some.inj last)

/-! ## The path -/

/-- A number below a hundred is written with two digits. -/
theorem twoDigits_eq {n : Nat} (small : n < 100) :
    twoDigits n = String.ofList [Nat.digitChar (n / 10), Nat.digitChar (n % 10)] := by
  have all : ∀ n < 100,
      twoDigits n = String.ofList [Nat.digitChar (n / 10), Nat.digitChar (n % 10)] := by
    decide +kernel
  exact all n small

theorem toList_url (base : String) (mode : Mode) (index : UInt8) :
    (url base mode index).toList = (withoutSlashes base).toList ++
      ("/themes/" ++ mode.name ++ "/" ++ twoDigits index.toNat ++ ".json").toList := by
  have parts : url base mode index = withoutSlashes base ++ "/" ++
      ("themes/" ++ mode.name ++ "/" ++ twoDigits index.toNat ++ ".json") := rfl
  rw [parts]
  simp

/-! ## What stands behind the scheme -/

/-- Behind a beginning the text goes on, and not with a slash. -/
def GoesOn (beginning text : List Char) : Prop :=
  ∃ c rest, c ≠ '/' ∧ text = beginning ++ c :: rest

/-- What every web address begins with. -/
def schemes : List String := ["http://", "https://"]

/-- A text begins as a web address does and goes on with something other than a slash. -/
def NamesHost (url : String) : Prop :=
  ∃ scheme ∈ schemes, GoesOn scheme.toList url.toList

variable {beginning stem tail : List Char}

theorem GoesOn.append (goesOn : GoesOn beginning stem) (tail : List Char) :
    GoesOn beginning (stem ++ tail) := by
  obtain ⟨c, rest, notSlash, rfl⟩ := goesOn
  exact ⟨c, rest ++ tail, notSlash, by simp⟩

/-- A beginning that ends in a slash lies within a text that does not, or is cut by its end. -/
theorem goesOn_or_cut (ends : beginning.getLast? = some '/') (last : stem.getLast? ≠ some '/')
    (goesOn : GoesOn beginning (stem ++ tail)) :
    GoesOn beginning stem ∨ ∃ cut, cut ≠ [] ∧ beginning = stem ++ cut ∧ GoesOn cut tail := by
  have ne : stem ≠ beginning := by
    rintro rfl
    exact last ends
  obtain ⟨c, rest, notSlash, same⟩ := goesOn
  obtain ⟨cut, begins, behind⟩ | ⟨more, begins, behind⟩ := List.append_eq_append_iff.1 same
  · refine .inr ⟨cut, ?_, begins, c, rest, notSlash, behind⟩
    rintro rfl
    exact ne (by simpa using begins.symm)
  · cases more with
    | nil => exact absurd (by simpa using begins) ne
    | cons d more =>
        obtain ⟨rfl, -⟩ := List.cons.inj behind
        exact .inl ⟨c, more, notSlash, begins⟩

/-- Slashes at the end do not matter to what stands behind a beginning. -/
theorem goesOn_stem_iff {base : List Char} (isStem : IsStem base stem)
    (ends : beginning.getLast? = some '/') : GoesOn beginning base ↔ GoesOn beginning stem := by
  obtain ⟨n, rfl⟩ := isStem.slashes
  constructor
  · intro goesOn
    obtain within | ⟨cut, -, -, c, rest, notSlash, behind⟩ := goesOn_or_cut ends isStem.last goesOn
    · exact within
    · have member : c ∈ List.replicate n '/' := by simp [behind]
      exact absurd (List.eq_of_mem_replicate member) notSlash
  · exact fun goesOn => goesOn.append _

/-- A path behind a slash completes no beginning that was cut: two slashes end it. -/
theorem goesOn_path_iff {body path : List Char} (two : beginning = body ++ ['/', '/'])
    (noPath : ¬ ['/', 't'] <:+: beginning) (last : stem.getLast? ≠ some '/') :
    GoesOn beginning (stem ++ '/' :: 't' :: path) ↔ GoesOn beginning stem := by
  constructor
  · intro goesOn
    have ends : beginning.getLast? = some '/' := by simp [two]
    obtain within | ⟨cut, nonempty, begins, c, rest, notSlash, behind⟩ :=
      goesOn_or_cut ends last goesOn
    · exact within
    · match cut, nonempty with
      | [d], _ =>
          -- only the second slash was cut, so the first one was left
          have same : body ++ ['/'] ++ ['/'] = stem ++ [d] := by
            rw [← begins, two]
            simp
          obtain ⟨isStem, -⟩ := List.append_inj' same rfl
          exact absurd (by simp [← isStem]) last
      | d :: e :: cut, _ =>
          obtain ⟨rfl, others⟩ := List.cons.inj behind
          obtain ⟨rfl, -⟩ := List.cons.inj others
          exact absurd ⟨stem, cut, by simp [begins]⟩ noPath
  · exact fun goesOn => goesOn.append _

theorem schemes_end : ∀ scheme ∈ schemes, ∃ body, scheme.toList = body ++ ['/', '/'] := by
  simp only [schemes, List.forall_mem_cons, List.not_mem_nil, false_imp_iff, implies_true, and_true]
  exact ⟨⟨"http:".toList, rfl⟩, ⟨"https:".toList, rfl⟩⟩

theorem schemes_noPath : ∀ scheme ∈ schemes, ¬ ['/', 't'] <:+: scheme.toList := by
  decide +kernel

/-- The address of a theme file names a host exactly when the configured address does. -/
theorem namesHost_url_iff (base : String) (mode : Mode) (index : UInt8) :
    NamesHost (url base mode index) ↔ NamesHost base := by
  have isStem := isStem_withoutSlashes base
  obtain ⟨path, begins⟩ : ∃ path, (url base mode index).toList =
      (withoutSlashes base).toList ++ '/' :: 't' :: path := by
    exact ⟨_, (toList_url base mode index).trans (by simp; rfl)⟩
  have each : ∀ scheme ∈ schemes, GoesOn scheme.toList (url base mode index).toList ↔
      GoesOn scheme.toList base.toList := by
    intro scheme member
    obtain ⟨body, two⟩ := schemes_end scheme member
    have ends : scheme.toList.getLast? = some '/' := by simp [two]
    rw [begins, goesOn_path_iff two (schemes_noPath scheme member) isStem.last,
      goesOn_stem_iff isStem ends]
  constructor
  · rintro ⟨scheme, member, goesOn⟩
    exact ⟨scheme, member, (each scheme member).1 goesOn⟩
  · rintro ⟨scheme, member, goesOn⟩
    exact ⟨scheme, member, (each scheme member).2 goesOn⟩

end ThemeFile

namespace Config

open ThemeFile (IsStem NamesHost)

/-- **What an accepted address makes of the addresses of theme files.**  For every configuration
without faults, both modes and every number of a theme file, the address is the configured one
without the slashes at its end, a slash, and the path of the file with the number in two digits.
It names a host exactly when the configured address has something other than a slash behind its
scheme, which is not asked of it. -/
theorem address_of_accepted {c : Config} (accepted : c.limitFaults = []) (mode : Mode)
    {index : UInt8} (last : index ≤ c.fileCount) :
    (∃ stem, IsStem c.serviceUrl.toList stem ∧
      (ThemeFile.url c.serviceUrl mode index).toList =
        stem ++ ("/themes/" ++ mode.name ++ "/").toList ++
          [Nat.digitChar (index.toNat / 10), Nat.digitChar (index.toNat % 10)] ++
            ".json".toList) ∧
      (NamesHost (ThemeFile.url c.serviceUrl mode index) ↔ NamesHost c.serviceUrl) := by
  have limits := (limitFaults_eq_nil_iff c).1 accepted
  have small : index.toNat < 100 := by
    have most : c.fileCount.toNat ≤ 99 := UInt8.le_iff_toNat_le.1 limits.most
    have within : index.toNat ≤ c.fileCount.toNat := UInt8.le_iff_toNat_le.1 last
    omega
  refine ⟨⟨_, ThemeFile.isStem_withoutSlashes c.serviceUrl, ?_⟩,
    ThemeFile.namesHost_url_iff c.serviceUrl mode index⟩
  rw [ThemeFile.toList_url, ThemeFile.twoDigits_eq small]
  simp

/-- An address with slashes at its end. -/
def slashedConfig : Config :=
  { empty with serviceUrl? := some "https://themes.example.com//", fileCount? := some 99 }

/-- The forty-second file is asked for under an address that had slashes at its end. -/
theorem address_of_slashedConfig :
    slashedConfig.limitFaults = [] ∧ (42 : UInt8) ≤ slashedConfig.fileCount ∧
      ∃ stem, IsStem slashedConfig.serviceUrl.toList stem ∧
        (ThemeFile.url slashedConfig.serviceUrl .dark 42).toList =
          stem ++ ("/themes/" ++ Mode.dark.name ++ "/").toList ++ ['4', '2'] ++ ".json".toList := by
  have accepted : slashedConfig.limitFaults = [] := by decide
  have last : (42 : UInt8) ≤ slashedConfig.fileCount := by decide
  exact ⟨accepted, last, (address_of_accepted accepted .dark last).1⟩

/-- An address with nothing behind its scheme. -/
def hostlessConfig : Config :=
  { empty with serviceUrl? := some "http://" }

/-- It is accepted although the addresses of the theme files lose a slash of their scheme. -/
theorem hostless_address :
    hostlessConfig.limitFaults = [] ∧
      ThemeFile.url hostlessConfig.serviceUrl .light 1 = "http:/themes/light/01.json" ∧
      ¬ NamesHost (ThemeFile.url hostlessConfig.serviceUrl .light 1) := by
  refine ⟨by decide, by decide, ?_⟩
  rw [ThemeFile.namesHost_url_iff]
  rintro ⟨scheme, member, c, rest, -, same⟩
  have long : ∀ scheme ∈ ThemeFile.schemes, 7 ≤ scheme.toList.length := by decide
  have shorter : hostlessConfig.serviceUrl.toList.length = 7 := by decide
  have enough := long scheme member
  rw [same, List.length_append, List.length_cons] at shorter
  omega

end Config

end ThemeEditor
