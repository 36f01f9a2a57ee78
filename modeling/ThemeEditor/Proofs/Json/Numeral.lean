/-
# ThemeEditor.Proofs.Json.Numeral -- numbers that are passed over

A number that nobody reads has a form and no value (`Numeral`): a whole part
without a leading zero, and a fraction and an exponent if it has them.

Passing over the digits takes as many as there are.  So a number is passed over
when what follows could not go on with it (`skipNumber_unsigned`), and what is
passed over is one (`unsigned_of_skipNumber`).
-/
import ThemeEditor.Proofs.Json.Accepting

namespace ThemeEditor.Json

set_option autoImplicit false

/-! ## The grammar -/

/-- Digits, at least one. -/
structure Digits (s : List Char) : Prop where
  some : s ≠ []
  all : ∀ c ∈ s, isDigit c = true

/-- The whole part of a number: a zero that stands alone, or digits after another one. -/
inductive Whole : List Char → Prop where
  | zero : Whole ['0']
  | digits {c : Char} {s : List Char} (first : isDigit c = true) (notZero : c ≠ '0')
      (rest : ∀ d ∈ s, isDigit d = true) : Whole (c :: s)

/-- The fraction of a number, if it has one. -/
inductive Fraction : List Char → Prop where
  | none : Fraction []
  | point {s : List Char} (digits : Digits s) : Fraction ('.' :: s)

/-- The exponent of a number, if it has one. -/
inductive Exponent : List Char → Prop where
  | none : Exponent []
  | power {letter : Char} {sign s : List Char} (isLetter : letter = 'e' ∨ letter = 'E')
      (isSign : sign ∈ [[], ['-'], ['+']]) (digits : Digits s) : Exponent (letter :: (sign ++ s))

/-- A number without its sign. -/
def Unsigned (t : List Char) : Prop :=
  ∃ whole fraction exponent, Whole whole ∧ Fraction fraction ∧ Exponent exponent ∧
    t = whole ++ (fraction ++ exponent)

/-- A number. -/
inductive Numeral : List Char → Prop where
  | positive {t : List Char} (unsigned : Unsigned t) : Numeral t
  | negative {t : List Char} (unsigned : Unsigned t) : Numeral ('-' :: t)

/-! ## Digits -/

/-- The next character is no digit. -/
def NoDigit (s : List Char) : Prop :=
  ∀ c ∈ s.head?, isDigit c = false

theorem noDigit_cons {c : Char} (notDigit : isDigit c = false) (s : List Char) :
    NoDigit (c :: s) := by
  intro d first
  cases first
  exact notDigit

theorem takeWhile_noDigit {s : List Char} (stop : NoDigit s) : s.takeWhile isDigit = [] := by
  cases s with
  | nil => rfl
  | cons c s => exact List.takeWhile_cons_of_neg (by simp [stop c rfl])

theorem dropWhile_noDigit {s : List Char} (stop : NoDigit s) : s.dropWhile isDigit = s := by
  cases s with
  | nil => rfl
  | cons c s => exact List.dropWhile_cons_of_neg (by simp [stop c rfl])

theorem dropWhile_digits {s rest : List Char} (all : ∀ c ∈ s, isDigit c = true)
    (stop : NoDigit rest) : (s ++ rest).dropWhile isDigit = rest := by
  rw [List.dropWhile_append_of_pos all, dropWhile_noDigit stop]

theorem digits_takeWhile {c : Char} (first : isDigit c = true) (s : List Char) :
    Digits (c :: s.takeWhile isDigit) where
  some := List.cons_ne_nil c _
  all := by
    intro d member
    rcases List.mem_cons.1 member with rfl | member
    · exact first
    · exact List.mem_takeWhile_imp member

/-! ## Numbers are passed over -/

/-- What may follow a number: no character that could go on with it. -/
structure Stops (rest : List Char) : Prop where
  noDigit : NoDigit rest
  noMark : ∀ c ∈ rest.head?, c ≠ '.' ∧ c ≠ 'e' ∧ c ≠ 'E'

theorem Ends.stops {rest : List Char} (ends : Ends rest) : Stops rest := by
  have plain : ∀ c ∈ rest.head?, isDigit c = false ∧ c ≠ '.' ∧ c ≠ 'e' ∧ c ≠ 'E' := by
    intro c first
    rcases ends c first with space | rfl | rfl | rfl
    · simp only [isSpace, Bool.or_eq_true, decide_eq_true_eq] at space
      rcases space with ((rfl | rfl) | rfl) | rfl <;> decide
    · decide
    · decide
    · decide
  exact ⟨fun c first => (plain c first).1, fun c first => (plain c first).2⟩

theorem exponentSign_sign {sign s : List Char} (isSign : sign ∈ [[], ['-'], ['+']])
    (digits : Digits s) (rest : List Char) :
    (exponentSign (sign ++ (s ++ rest))).2 = s ++ rest := by
  simp only [List.mem_cons, List.not_mem_nil, or_false] at isSign
  rcases isSign with rfl | rfl | rfl
  · -- a digit is no sign
    obtain ⟨c, s, rfl⟩ := List.exists_cons_of_ne_nil digits.some
    have isDigit : isDigit c = true := digits.all c List.mem_cons_self
    have notMinus : c ≠ '-' := by
      rintro rfl
      cases isDigit
    have notPlus : c ≠ '+' := by
      rintro rfl
      cases isDigit
    simp [exponentSign, notMinus, notPlus]
  · rfl
  · rfl

theorem skipExponentPart_exponent {e rest : List Char} (exponent : Exponent e)
    (stops : Stops rest) : skipExponentPart (e ++ rest) = .ok rest := by
  cases exponent with
  | none =>
      cases rest with
      | nil => rfl
      | cons c rest =>
          obtain ⟨-, notSmall, notBig⟩ := stops.noMark c rfl
          simp [skipExponentPart, notSmall, notBig]
  | @power letter sign s isLetter isSign digits =>
      have isPower : (decide (letter = 'e') || decide (letter = 'E')) = true := by
        simpa using isLetter
      have signed := exponentSign_sign isSign digits rest
      obtain ⟨c, s, rfl⟩ := List.exists_cons_of_ne_nil digits.some
      have first : isDigit c = true := digits.all c List.mem_cons_self
      have isMore : ∀ d ∈ s, isDigit d = true :=
        fun d member => digits.all d (List.mem_cons_of_mem c member)
      have others : (s ++ rest).dropWhile isDigit = rest :=
        dropWhile_digits isMore stops.noDigit
      rw [List.cons_append, List.append_assoc, skipExponentPart, if_pos isPower, skipExponent,
        signed]
      simp only [List.cons_append, first, if_true, others]

/-- Neither a digit nor a point goes on with an exponent. -/
theorem stop_exponent {e rest : List Char} (exponent : Exponent e) (stops : Stops rest) :
    NoDigit (e ++ rest) ∧ ∀ c ∈ (e ++ rest).head?, c ≠ '.' := by
  cases exponent with
  | none => exact ⟨stops.noDigit, fun c first => (stops.noMark c first).1⟩
  | @power letter _ _ isLetter _ _ =>
      have plain : isDigit letter = false ∧ letter ≠ '.' := by
        rcases isLetter with rfl | rfl
        · exact ⟨rfl, by decide⟩
        · exact ⟨rfl, by decide⟩
      refine ⟨noDigit_cons plain.1 _, fun c first => ?_⟩
      cases first
      exact plain.2

theorem skipFractionPart_fraction {f e rest : List Char} (fraction : Fraction f)
    (exponent : Exponent e) (stops : Stops rest) :
    skipFractionPart (f ++ (e ++ rest)) = .ok rest := by
  have power := skipExponentPart_exponent exponent stops
  obtain ⟨noDigit, noPoint⟩ := stop_exponent exponent stops
  cases fraction with
  | none =>
      rw [List.nil_append]
      generalize e ++ rest = tail at power noPoint ⊢
      cases tail with
      | nil => exact power
      | cons c tail => rw [skipFractionPart, if_neg (noPoint c rfl), power]
  | @point s digits =>
      obtain ⟨c, s, rfl⟩ := List.exists_cons_of_ne_nil digits.some
      have first : isDigit c = true := digits.all c List.mem_cons_self
      have some : (((c :: s) ++ (e ++ rest)).takeWhile isDigit).isEmpty = false := by
        rw [List.cons_append, List.takeWhile_cons_of_pos first]
        rfl
      have others : ((c :: s) ++ (e ++ rest)).dropWhile isDigit = e ++ rest :=
        dropWhile_digits digits.all noDigit
      rw [List.cons_append, skipFractionPart, if_pos rfl, some, if_neg Bool.false_ne_true, others,
        power]

theorem noDigit_fraction {f e rest : List Char} (fraction : Fraction f) (exponent : Exponent e)
    (stops : Stops rest) : NoDigit (f ++ (e ++ rest)) := by
  cases fraction with
  | none => exact (stop_exponent exponent stops).1
  | point _ => exact noDigit_cons rfl _

theorem skipNumber_unsigned {t rest : List Char} (unsigned : Unsigned t) (stops : Stops rest) :
    skipNumber (t ++ rest) = .ok rest := by
  obtain ⟨whole, f, e, isWhole, fraction, exponent, rfl⟩ := unsigned
  have part := skipFractionPart_fraction fraction exponent stops
  have stop := noDigit_fraction fraction exponent stops
  rw [List.append_assoc, List.append_assoc]
  cases isWhole with
  | zero =>
      -- behind a zero stands no digit, or the zero would not be the whole
      have none : (['0'] ++ (f ++ (e ++ rest))).tail.takeWhile isDigit = [] :=
        takeWhile_noDigit stop
      simp only [List.cons_append, List.nil_append, List.tail_cons] at none ⊢
      simp [skipNumber, none, part, isDigit]
  | @digits c s first notZero others =>
      have dropped := dropWhile_digits others stop
      simp only [List.cons_append, skipNumber, first, notZero, dropped, part, Bool.not_true,
        Bool.false_eq_true, if_false]

/-! ## How numbers start -/

/-- A digit begins a number and nothing else. -/
theorem isDigit_ne {c : Char} (digit : isDigit c = true) :
    c ≠ 'n' ∧ c ≠ 't' ∧ c ≠ 'f' ∧ c ≠ '-' := by
  refine ⟨?_, ?_, ?_, ?_⟩ <;>
    · rintro rfl
      cases digit

theorem unsigned_first {t : List Char} (unsigned : Unsigned t) :
    ∃ c s, t = c :: s ∧ isDigit c = true := by
  obtain ⟨whole, f, e, isWhole, -, -, rfl⟩ := unsigned
  cases isWhole with
  | zero => exact ⟨'0', _, rfl, rfl⟩
  | digits first _ _ => exact ⟨_, _, rfl, first⟩

theorem isSpace_of_isDigit {c : Char} (digit : isDigit c = true) : isSpace c = false := by
  by_contra space
  simp only [isSpace, Bool.not_eq_false, Bool.or_eq_true, decide_eq_true_eq] at space
  rcases space with ((rfl | rfl) | rfl) | rfl <;> cases digit

/-! ## Nothing else is passed over -/

/-- Of the characters of an exponent the sign, if there is one, is passed over. -/
theorem exponentSign_append (s : List Char) :
    ∃ sign ∈ [[], ['-'], ['+']], s = sign ++ (exponentSign s).2 := by
  unfold exponentSign
  split
  · exact ⟨[], by simp, rfl⟩
  · next c r =>
    split
    · next isMinus => exact ⟨['-'], by simp, by rw [isMinus]; rfl⟩
    · split
      · next isPlus => exact ⟨['+'], by simp, by rw [isPlus]; rfl⟩
      · exact ⟨[], by simp, rfl⟩

theorem exponent_of_skipExponentPart {s r : List Char} (skipped : skipExponentPart s = .ok r) :
    ∃ e, Exponent e ∧ s = e ++ r := by
  unfold skipExponentPart at skipped
  split at skipped
  · cases skipped
    exact ⟨[], .none, rfl⟩
  · next letter s' =>
    split at skipped
    · next isLetter =>
      obtain ⟨sign, isSign, same⟩ := exponentSign_append s'
      unfold skipExponent at skipped
      split at skipped
      · cases skipped
      · next c t signed =>
        split at skipped
        · next first =>
          cases skipped
          have power : Exponent (letter :: (sign ++ (c :: t.takeWhile isDigit))) :=
            .power (by simpa using isLetter) isSign (digits_takeWhile first t)
          refine ⟨_, power, ?_⟩
          rw [same, signed]
          simp [List.takeWhile_append_dropWhile]
        · cases skipped
    · cases skipped
      exact ⟨[], .none, rfl⟩

theorem fraction_of_skipFractionPart {s r : List Char} (skipped : skipFractionPart s = .ok r) :
    ∃ f e, Fraction f ∧ Exponent e ∧ s = f ++ (e ++ r) := by
  unfold skipFractionPart at skipped
  split at skipped
  · cases skipped
    exact ⟨[], [], .none, .none, rfl⟩
  · next c s' =>
    split at skipped
    · next isPoint =>
      split at skipped
      · cases skipped
      · next some =>
        obtain ⟨e, exponent, same⟩ := exponent_of_skipExponentPart skipped
        have digits : Digits (s'.takeWhile isDigit) :=
          ⟨by simpa using some, fun _ member => List.mem_takeWhile_imp member⟩
        refine ⟨_, e, .point digits, exponent, ?_⟩
        rw [isPoint, List.cons_append, ← same, List.takeWhile_append_dropWhile]
    · obtain ⟨e, exponent, same⟩ := exponent_of_skipExponentPart skipped
      exact ⟨[], e, .none, exponent, same⟩

theorem unsigned_of_skipNumber {s r : List Char} (skipped : skipNumber s = .ok r) :
    ∃ t, Unsigned t ∧ s = t ++ r := by
  unfold skipNumber at skipped
  split at skipped
  · cases skipped
  · next c s' =>
    split at skipped
    · cases skipped
    · next first =>
      have first : isDigit c = true := by simpa using first
      split at skipped
      · next isZero =>
        split at skipped
        · obtain ⟨f, e, fraction, exponent, rfl⟩ := fraction_of_skipFractionPart skipped
          exact ⟨_, ⟨['0'], f, e, .zero, fraction, exponent, rfl⟩, by simp [isZero]⟩
        · cases skipped
      · next notZero =>
        obtain ⟨f, e, fraction, exponent, same⟩ := fraction_of_skipFractionPart skipped
        have whole : Whole (c :: s'.takeWhile isDigit) :=
          .digits first notZero fun _ member => List.mem_takeWhile_imp member
        refine ⟨_, ⟨_, f, e, whole, fraction, exponent, rfl⟩, ?_⟩
        rw [List.append_assoc, List.append_assoc, ← same, List.cons_append,
          List.takeWhile_append_dropWhile]

end ThemeEditor.Json
