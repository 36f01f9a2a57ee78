/-
# ThemeEditor.Proofs.Toml.Lines -- reading a document line by line

A document whose lines are known is read one line after the other (`Reads`,
`Reads.items`).  Blank lines and comments change nothing (`Reads.pass`), so only
the lines between them have to be looked at.
-/
import ThemeEditor.Toml.Document

namespace ThemeEditor.Toml

set_option autoImplicit false

variable {limit : Option Nat} {draft draft' : Draft} {l : List Char} {ls : List (List Char)}

/-- Lines that turn one draft into another one; the last line is empty. -/
inductive Reads (limit : Option Nat) : Draft → List (List Char) → Draft → Prop where
  | done (draft : Draft) : Reads limit draft [[]] draft
  | next {draft after last : Draft} {l : List Char} {ls : List (List Char)}
      (first : ∀ rest, line limit draft (l ++ '\n' :: rest) = .ok (after, rest))
      (others : Reads limit after ls last) : Reads limit draft (l :: ls) last

theorem Reads.ne_nil (reads : Reads limit draft ls draft') : ls ≠ [] := by
  cases reads <;> exact List.cons_ne_nil _ _

/-- What is read from the lines is read from the text that they make. -/
theorem Reads.linesFrom (reads : Reads limit draft ls draft') : ∀ {fuel : Nat},
    ls.length ≤ fuel → linesFrom limit fuel draft (['\n'].intercalate ls) = .ok draft' := by
  induction reads with
  | done draft =>
      intro fuel _
      have nothing : (['\n'].intercalate [[]] : List Char) = [] := rfl
      rw [nothing]
      cases fuel <;> rfl
  | @next draft after last l ls first others ih =>
      intro fuel enough
      cases fuel with
      | zero => cases enough
      | succ fuel =>
          obtain ⟨second, rest, rfl⟩ := List.exists_cons_of_ne_nil others.ne_nil
          have text : ['\n'].intercalate (l :: second :: rest) =
              l ++ '\n' :: ['\n'].intercalate (second :: rest) := by
            rw [List.intercalate_cons_cons, List.append_assoc]
            rfl
          have more : (l ++ '\n' :: ['\n'].intercalate (second :: rest)).isEmpty = false := by
            cases l <;> rfl
          rw [text, Toml.linesFrom, more, first]
          exact ih (Nat.le_of_succ_le_succ enough)

/-- A text has a character between any two lines. -/
theorem length_le_intercalate : ∀ ls : List (List Char),
    ls.length ≤ (['\n'].intercalate ls).length + 1
  | [] => Nat.zero_le _
  | [l] => Nat.le_add_left _ _
  | l :: second :: rest => by
      have more := length_le_intercalate (second :: rest)
      rw [List.intercalate_cons_cons]
      simp only [List.length_append, List.length_cons, List.length_nil] at more ⊢
      omega

/-- The members of a document are those that its lines make. -/
theorem Reads.items (reads : Reads limit ⟨[], []⟩ ls draft) :
    items limit (['\n'].intercalate ls) = .ok (membersItems draft.members) := by
  rw [Toml.items, reads.linesFrom (length_le_intercalate ls)]
  rfl

/-! ## Lines that are passed over -/

/-- A blank line, or a comment. -/
def passes (l : List Char) : Bool :=
  l.isEmpty || (l.head? = some '#' && l.all fun c => !isControl c)

theorem line_of_passes (passed : passes l = true) (rest : List Char) :
    line limit draft (l ++ '\n' :: rest) = .ok (draft, rest) := by
  cases l with
  | nil => rfl
  | cons c body =>
      simp only [passes, List.isEmpty_cons, Bool.false_or, List.head?_cons, Option.some.injEq,
        List.all_cons, Bool.and_eq_true, decide_eq_true_eq] at passed
      obtain ⟨rfl, -, visible⟩ := passed
      have behind : (body ++ '\n' :: rest).dropWhile (fun c => !isControl c) = '\n' :: rest := by
        rw [List.dropWhile_append_of_pos (List.all_eq_true.1 visible)]
        rfl
      have ended : endLine ('#' :: (body ++ '\n' :: rest)) = some rest := by
        have gap : skipGaps ('#' :: (body ++ '\n' :: rest)) = '#' :: (body ++ '\n' :: rest) := rfl
        rw [endLine, gap, skipComment, behind]
        rfl
      have gap : skipGaps ('#' :: body ++ '\n' :: rest) = '#' :: (body ++ '\n' :: rest) := rfl
      unfold line
      rw [gap]
      simp [ended, need, bind, Except.bind, pure, Except.pure]

/-- Blank lines and comments change nothing. -/
theorem Reads.pass (count : Nat) (passed : ∀ l ∈ ls.take count, passes l = true)
    (reads : Reads limit draft (ls.drop count) draft') : Reads limit draft ls draft' := by
  induction count generalizing ls with
  | zero => exact reads
  | succ count ih =>
      cases ls with
      | nil => exact reads
      | cons l ls =>
          obtain ⟨first, others⟩ := List.forall_mem_cons.1 passed
          exact .next (line_of_passes first) (ih others reads)

end ThemeEditor.Toml
