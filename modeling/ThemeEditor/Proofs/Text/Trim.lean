/-
# ThemeEditor.Proofs.Text.Trim -- texts without the white space around them

What is left of a text without the white space around it is told by what it is
(`Trimmed`): there is only white space around it, and it neither begins nor ends with
any.  Just one part of a text is like that, and it is the one that `trim` gives
(`trimmed_iff`).
-/
import Mathlib.Data.List.DropRight
import ThemeEditor.Text.Blank

namespace ThemeEditor.Text

set_option autoImplicit false

variable {text inner : List Char}

/-- The part of a text between the white space in front and the white space at the back. -/
structure Trimmed (text inner : List Char) : Prop where
  around : ∃ front back, text = front ++ inner ++ back ∧
    (∀ c ∈ front, isBlank c = true) ∧ ∀ c ∈ back, isBlank c = true
  first : ∀ c, inner.head? = some c → isBlank c = false
  last : ∀ c, inner.getLast? = some c → isBlank c = false

theorem toList_trim (s : String) :
    (trim s).toList = (s.toList.dropWhile isBlank).rdropWhile isBlank :=
  String.toList_ofList

theorem trimmed_trim (s : String) : Trimmed s.toList (trim s).toList := by
  rw [toList_trim]
  constructor
  · refine ⟨s.toList.takeWhile isBlank, (s.toList.dropWhile isBlank).rtakeWhile isBlank, ?_,
      fun c => List.mem_takeWhile_imp, fun c => List.mem_rtakeWhile_imp⟩
    rw [List.append_assoc, List.rdropWhile_append_rtakeWhile, List.takeWhile_append_dropWhile]
  · intro c isFirst
    -- it begins as what is left when the front is dropped
    obtain ⟨back, whole⟩ := List.rdropWhile_prefix isBlank (s.toList.dropWhile isBlank)
    have dropped := List.head?_dropWhile_not isBlank s.toList
    rw [← whole, List.head?_append, isFirst] at dropped
    exact dropped
  · intro c isLast
    have dropped := List.head?_dropWhile_not isBlank (s.toList.dropWhile isBlank).reverse
    rw [List.rdropWhile, List.getLast?_reverse] at isLast
    rw [isLast] at dropped
    exact dropped

theorem dropWhile_of_first (first : ∀ c, inner.head? = some c → isBlank c = false) :
    inner.dropWhile isBlank = inner := by
  cases inner with
  | nil => rfl
  | cons c cs => exact List.dropWhile_cons_of_neg (by simp [first c rfl])

theorem rdropWhile_append_blank {back : List Char} (blank : ∀ c ∈ back, isBlank c = true)
    (last : ∀ c, inner.getLast? = some c → isBlank c = false) :
    (inner ++ back).rdropWhile isBlank = inner := by
  have blank' : ∀ c ∈ back.reverse, isBlank c = true := fun c member =>
    blank c (List.mem_reverse.1 member)
  rw [← List.head?_reverse] at last
  rw [List.rdropWhile, List.reverse_append, List.dropWhile_append_of_pos blank',
    dropWhile_of_first last, List.reverse_reverse]

theorem Trimmed.eq (trimmed : Trimmed text inner) :
    inner = (text.dropWhile isBlank).rdropWhile isBlank := by
  obtain ⟨front, back, rfl, inFront, behind⟩ := trimmed.around
  rw [List.append_assoc, List.dropWhile_append_of_pos inFront]
  cases inner with
  | nil =>
      rw [List.nil_append, List.dropWhile_eq_nil_iff.2 behind]
      rfl
  | cons c cs =>
      have start : ∀ d, (c :: cs ++ back).head? = some d → isBlank d = false := trimmed.first
      rw [dropWhile_of_first start, rdropWhile_append_blank behind trimmed.last]

/-- Trimming finds the one part of a text that has the white space around it. -/
theorem trimmed_iff {s t : String} : Trimmed s.toList t.toList ↔ t = trim s := by
  constructor
  · intro trimmed
    apply String.toList_injective
    rw [toList_trim]
    exact trimmed.eq
  · rintro rfl
    exact trimmed_trim s

/-- Where there is no white space nothing is trimmed. -/
theorem trim_of_notBlank {s : String} (clean : ∀ c ∈ s.toList, isBlank c = false) :
    trim s = s := by
  refine (trimmed_iff.1 ⟨⟨[], [], by simp, by simp, by simp⟩, ?_, ?_⟩).symm
  · exact fun c isFirst => clean c (List.mem_of_head? isFirst)
  · exact fun c isLast => clean c (List.mem_of_getLast? isLast)

end ThemeEditor.Text
