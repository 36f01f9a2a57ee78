/-
# ThemeEditor.Proofs.Config.DefaultText -- what the first configuration holds

The first configuration is a TOML document with three members: the address of the
service, the number of files, and the level of the log (`read_defaultText`).  All else
in it is comments.
-/
import Mathlib.Data.List.Permutation
import ThemeEditor.Config.Create
import ThemeEditor.Proofs.Config.Find
import ThemeEditor.Proofs.Toml.Lines
import ThemeEditor.Proofs.Toml.Tables

namespace ThemeEditor.Config

set_option autoImplicit false

open Toml (Reads)

/-! ## Line by line -/

/-- The members behind the address of the service. -/
def addressMembers : Toml.Members :=
  [("theme_service_url", .value (.text "http://localhost:8080"))]

/-- The members behind the number of files. -/
def countMembers : Toml.Members :=
  addressMembers ++ [("theme_file_count", .value (.scalar (.integer 10 ['1', '0'])))]

/-- The members with what is configured of the log. -/
def levelMembers (inside : Toml.Members) : Toml.Members :=
  countMembers ++ [("logging", .table false false inside)]

section

variable (rest : List Char)

theorem line_address : Toml.line (some Toml.depthLimit) ⟨[], []⟩
    ("theme_service_url = \"http://localhost:8080\"".toList ++ '\n' :: rest) =
      .ok (⟨addressMembers, []⟩, rest) := by
  cbv

theorem line_count : Toml.line (some Toml.depthLimit) ⟨addressMembers, []⟩
    ("theme_file_count = 10".toList ++ '\n' :: rest) = .ok (⟨countMembers, []⟩, rest) := by
  cbv

theorem line_log : Toml.line (some Toml.depthLimit) ⟨countMembers, []⟩
    ("[logging]".toList ++ '\n' :: rest) = .ok (⟨levelMembers [], ["logging"]⟩, rest) := by
  cbv

theorem line_level : Toml.line (some Toml.depthLimit) ⟨levelMembers [], ["logging"]⟩
    ("level = \"info\"".toList ++ '\n' :: rest) =
      .ok (⟨levelMembers [("level", .value (.text "info"))], ["logging"]⟩, rest) := by
  cbv

end

/-- The lines that are no comments are read one after the other. -/
theorem reads_defaultText : ∃ lines, defaultText.toList = ['\n'].intercalate lines ∧
    Reads (some Toml.depthLimit) ⟨[], []⟩ lines
      ⟨levelMembers [("level", .value (.text "info"))], ["logging"]⟩ := by
  refine ⟨_, String.toList_intercalate, ?_⟩
  refine .pass 9 (by decide +kernel) (.next line_address ?_)
  refine .pass 2 (by decide +kernel) (.next line_count ?_)
  refine .pass 7 (by decide +kernel) (.next line_log ?_)
  refine .pass 1 (by decide +kernel) (.next line_level ?_)
  exact .pass 2 (by decide +kernel) (.done _)

/-! ## The members -/

/-- What the first configuration holds. -/
def defaultMembers : List (String × Json.Value) :=
  [("logging", .object [("level", .text "info")]),
   ("theme_file_count", .number (.integer 10)),
   ("theme_service_url", .text "http://localhost:8080")]

theorem ordered_levelMembers : Toml.ordered (Toml.membersValues (Toml.membersItems
    (levelMembers [("level", .value (.text "info"))]))) = .ok defaultMembers := by
  have ten : Toml.Scalar.value (.integer 10 ['1', '0']) = .ok (.number (.integer 10)) := rfl
  have values : Toml.membersValues (Toml.membersItems
      (levelMembers [("level", .value (.text "info"))])) =
      [("theme_service_url", .ok (.text "http://localhost:8080")),
        ("theme_file_count", .ok (.number (.integer 10))),
        ("logging", .ok (.object [("level", .text "info")]))] := by
    simp [levelMembers, countMembers, addressMembers, Toml.membersItems, Toml.Node.item,
      Toml.membersValues, Toml.Item.value, ten, Toml.ordered, Except.map]
  rw [values, Toml.ordered_of_perm (List.reverse_perm _).symm (by decide)]
  rfl

theorem read_defaultText : Toml.read defaultText = .ok defaultMembers := by
  obtain ⟨lines, text, reads⟩ := reads_defaultText
  have whole : Toml.withoutMark defaultText = defaultText.toList := by
    obtain ⟨rest, first⟩ : ∃ rest, defaultText.toList = '#' :: rest := by
      rw [defaultText, String.intercalate_cons_cons, String.toList_append, String.toList_append]
      exact ⟨_, rfl⟩
    rw [Toml.withoutMark, first]
    rfl
  rw [Toml.read, whole, text, reads.items]
  dsimp only
  rw [ordered_levelMembers]

/-- These members are read from the file, which begins with a comment and not with a byte order
mark. -/
theorem read_defaultBytes :
    Toml.read (Text.lossy (withoutMark defaultText.toUTF8)) = .ok defaultMembers := by
  have unmarked : defaultText.toUTF8.toList.take 3 ≠ [0xEF, 0xBB, 0xBF] := by decide +kernel
  rw [lossy_withoutMark unmarked, read_defaultText]

end ThemeEditor.Config
