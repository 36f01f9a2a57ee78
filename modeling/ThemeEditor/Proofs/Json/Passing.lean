/-
# ThemeEditor.Proofs.Json.Passing -- the values that are passed over

The value of an unknown member is read by the grammar alone and forgotten.
`Passed` is that grammar: any value of JSON, to any depth, where an escaped
surrogate needs no partner (`Unread`) and a number has no range (`Numeral`).

The reader that passes over a value takes the texts of this grammar
(`skipValue_passed`) and no others (`passed_of_skipValue`).  In both directions
the three functions that call one another are handled together: `Part` says which
of them a text is for.
-/
import ThemeEditor.Proofs.Json.Numeral

namespace ThemeEditor.Json

set_option autoImplicit false

/-! ## The grammar -/

/-- What stands between the quotation marks of a text that nobody reads. -/
inductive Unread : List Char → Prop where
  | nil : Unread []
  | plain {c : Char} {s : List Char} (notQuote : c ≠ '"') (notEscape : c ≠ '\\')
      (printed : ¬ c < ' ') (rest : Unread s) : Unread (c :: s)
  | short {c e : Char} {s : List Char} (known : shortEscape? c = some e) (rest : Unread s) :
      Unread ('\\' :: c :: s)
  | unit {a b c d : Char} {n : Nat} {s : List Char} (code : hexCode? a b c d = some n)
      (rest : Unread s) : Unread ('\\' :: 'u' :: a :: b :: c :: d :: s)

/-- The texts that are passed over: values, the items of a list, the members of an object. -/
inductive Part where
  | value
  | items
  | members

/-- A text that is passed over, as a value or as what stands between brackets. -/
inductive Passed : Part → List Char → Prop where
  | null : Passed .value ['n', 'u', 'l', 'l']
  | boolean (b : Bool) {t : List Char} (holds : Grammar.boolean t b) : Passed .value t
  | number {t : List Char} (numeral : Numeral t) : Passed .value t
  | text {s : List Char} (unread : Unread s) : Passed .value ('"' :: (s ++ ['"']))
  | emptyList {ws : List Char} (blank : Blank ws) : Passed .value ('[' :: (ws ++ [']']))
  | list {s : List Char} (items : Passed .items s) : Passed .value ('[' :: (s ++ [']']))
  | emptyObject {ws : List Char} (blank : Blank ws) : Passed .value ('{' :: (ws ++ ['}']))
  | object {s : List Char} (members : Passed .members s) : Passed .value ('{' :: (s ++ ['}']))
  | lastItem {ws t ws' : List Char} (before : Blank ws) (value : Passed .value t)
      (after : Blank ws') : Passed .items (ws ++ (t ++ ws'))
  | item {ws t ws' s : List Char} (before : Blank ws) (value : Passed .value t)
      (after : Blank ws') (rest : Passed .items s) : Passed .items (ws ++ (t ++ (ws' ++ ',' :: s)))
  | lastMember {ws key ws₁ ws₂ t ws' : List Char} (before : Blank ws) (unread : Unread key)
      (blank₁ : Blank ws₁) (blank₂ : Blank ws₂) (value : Passed .value t) (after : Blank ws') :
      Passed .members (ws ++ '"' :: (key ++ '"' :: (ws₁ ++ ':' :: (ws₂ ++ (t ++ ws')))))
  | member {ws key ws₁ ws₂ t ws' s : List Char} (before : Blank ws) (unread : Unread key)
      (blank₁ : Blank ws₁) (blank₂ : Blank ws₂) (value : Passed .value t) (after : Blank ws')
      (rest : Passed .members s) :
      Passed .members
        (ws ++ '"' :: (key ++ '"' :: (ws₁ ++ ':' :: (ws₂ ++ (t ++ (ws' ++ ',' :: s))))))

/-! ## Texts -/

theorem skipTextFrom_unread {s : List Char} (unread : Unread s) (r : List Char) :
    ∀ fuel, s.length < fuel → skipTextFrom fuel (s ++ '"' :: r) = .ok r := by
  induction unread with
  | nil =>
      intro fuel enough
      obtain ⟨n, rfl⟩ := Nat.exists_eq_succ_of_ne_zero (Nat.ne_zero_of_lt enough)
      simp [skipTextFrom]
  | plain notQuote notEscape printed _ ih =>
      intro fuel enough
      obtain ⟨n, rfl⟩ := Nat.exists_eq_succ_of_ne_zero (Nat.ne_zero_of_lt enough)
      rw [List.length_cons] at enough
      simp only [List.cons_append, skipTextFrom, notQuote, notEscape, printed, if_false]
      exact ih n (by omega)
  | @short c _ _ known _ ih =>
      intro fuel enough
      obtain ⟨n, rfl⟩ := Nat.exists_eq_succ_of_ne_zero (Nat.ne_zero_of_lt enough)
      simp only [List.length_cons] at enough
      have notU : c ≠ 'u' := by
        rintro rfl
        simp [shortEscape?_u] at known
      have rest := ih n (by omega)
      simp [skipTextFrom, escape, notU, known, rest]
  | unit code _ ih =>
      intro fuel enough
      obtain ⟨n, rfl⟩ := Nat.exists_eq_succ_of_ne_zero (Nat.ne_zero_of_lt enough)
      simp only [List.length_cons] at enough
      have rest := ih n (by omega)
      simp [skipTextFrom, escape, hexCode, code, rest]

theorem skipText_unread {s : List Char} (unread : Unread s) (r : List Char) :
    skipText (s ++ '"' :: r) = .ok r := by
  refine skipTextFrom_unread unread r _ ?_
  simp only [List.length_append, List.length_cons]
  omega

theorem unread_of_skipTextFrom : ∀ {fuel : Nat} {s r : List Char},
    skipTextFrom fuel s = .ok r → ∃ body, Unread body ∧ s = body ++ '"' :: r
  | 0, s, r, skipped => by
      simp only [skipTextFrom] at skipped
      cases skipped
  | fuel + 1, [], r, skipped => by
      simp only [skipTextFrom] at skipped
      cases skipped
  | fuel + 1, c :: s, r, skipped => by
      simp only [skipTextFrom] at skipped
      split at skipped
      · next isQuote =>
        cases skipped
        exact ⟨[], .nil, by rw [isQuote]; rfl⟩
      · next notQuote =>
        split at skipped
        · next isEscape =>
          rw [isEscape]
          split at skipped
          · cases skipped
          · next escaped =>
            obtain ⟨body, unread, rfl⟩ := unread_of_skipTextFrom skipped
            rcases escape_eq_ok escaped with ⟨e, m, rfl, known, -⟩ | ⟨h, i, j, k, n, rfl, code, -⟩
            · exact ⟨_, .short known unread, rfl⟩
            · exact ⟨_, .unit code unread, rfl⟩
        · next notEscape =>
          split at skipped
          · cases skipped
          · next printed =>
            obtain ⟨body, unread, rfl⟩ := unread_of_skipTextFrom skipped
            exact ⟨c :: body, .plain notQuote notEscape printed unread, rfl⟩

/-! ## Values are passed over -/

/-- What passing over a part comes to, whatever follows it. -/
def Part.Passes : Part → List Char → Prop
  | value, t => ∀ ⦃ws rest fuel⦄, Blank ws → Ends rest → 2 * t.length ≤ fuel →
      skipValueFrom fuel (ws ++ (t ++ rest)) = .ok rest
  | items, s => ∀ ⦃rest fuel⦄, 2 * s.length + 1 ≤ fuel →
      skipItemsFrom fuel (s ++ ']' :: rest) = .ok rest
  | members, s => ∀ ⦃rest fuel⦄, 2 * s.length + 1 ≤ fuel →
      skipMembersFrom fuel (s ++ '}' :: rest) = .ok rest

theorem skipSpace_skipSpace (s : List Char) : skipSpace (skipSpace s) = skipSpace s := by
  cases skipped : skipSpace s with
  | nil => rfl
  | cons c r =>
      obtain ⟨-, -, -, notSpace⟩ := skipSpace_eq_cons skipped
      exact skipSpace_cons notSpace r

theorem skipValueFrom_skipSpace (fuel : Nat) (s : List Char) :
    skipValueFrom fuel (skipSpace s) = skipValueFrom fuel s := by
  cases fuel with
  | zero => simp only [skipValueFrom]
  | succ fuel => simp only [skipValueFrom, skipSpace_skipSpace]

theorem skipItemsFrom_skipSpace (fuel : Nat) (s : List Char) :
    skipItemsFrom fuel (skipSpace s) = skipItemsFrom fuel s := by
  cases fuel with
  | zero => simp only [skipItemsFrom]
  | succ fuel => simp only [skipItemsFrom, skipValueFrom_skipSpace]

theorem skipMembersFrom_skipSpace (fuel : Nat) (s : List Char) :
    skipMembersFrom fuel (skipSpace s) = skipMembersFrom fuel s := by
  cases fuel with
  | zero => simp only [skipMembersFrom]
  | succ fuel => simp only [skipMembersFrom, skipSpace_skipSpace]

theorem skipValueFrom_list (fuel : Nat) (s : List Char) :
    skipValueFrom (fuel + 1) ('[' :: s) =
      match skipSpace s with
      | [] => .error (.before .endInList [])
      | d :: t => if d = ']' then .ok t else skipItemsFrom fuel (d :: t) := by
  cases inside : skipSpace s <;>
    simp [skipValueFrom, skipSpace_cons (c := '[') rfl, isDigit, inside]

theorem skipValueFrom_object (fuel : Nat) (s : List Char) :
    skipValueFrom (fuel + 1) ('{' :: s) =
      match skipSpace s with
      | [] => .error (.before .endInObject [])
      | d :: t => if d = '}' then .ok t else skipMembersFrom fuel (d :: t) := by
  cases inside : skipSpace s <;>
    simp [skipValueFrom, skipSpace_cons (c := '{') rfl, isDigit, inside]

/-- A value starts with a character that closes no list. -/
theorem Passed.first {t : List Char} (passed : Passed .value t) :
    ∃ c u, t = c :: u ∧ isSpace c = false ∧ c ≠ ']' := by
  cases passed with
  | null => exact ⟨'n', _, rfl, rfl, by decide⟩
  | boolean b holds => exact reads_boolean.starts holds
  | number numeral =>
      cases numeral with
      | positive unsigned =>
          obtain ⟨c, u, rfl, digit⟩ := unsigned_first unsigned
          refine ⟨c, u, rfl, isSpace_of_isDigit digit, ?_⟩
          rintro rfl
          cases digit
      | negative _ => exact ⟨'-', _, rfl, rfl, by decide⟩
  | text _ => exact ⟨'"', _, rfl, rfl, by decide⟩
  | emptyList _ => exact ⟨'[', _, rfl, rfl, by decide⟩
  | list _ => exact ⟨'[', _, rfl, rfl, by decide⟩
  | emptyObject _ => exact ⟨'{', _, rfl, rfl, by decide⟩
  | object _ => exact ⟨'{', _, rfl, rfl, by decide⟩

theorem Passed.firstItem {s : List Char} (passed : Passed .items s) (r : List Char) :
    ∃ c u, skipSpace (s ++ r) = c :: u ∧ c ≠ ']' := by
  cases passed with
  | @lastItem _ _ ws' before value _ =>
      obtain ⟨c, u, rfl, notSpace, notEnd⟩ := value.first
      refine ⟨c, u ++ (ws' ++ r), ?_, notEnd⟩
      simpa using skipSpace_to before notSpace (u ++ (ws' ++ r))
  | @item _ _ ws' s before value _ _ =>
      obtain ⟨c, u, rfl, notSpace, notEnd⟩ := value.first
      refine ⟨c, u ++ (ws' ++ ',' :: (s ++ r)), ?_, notEnd⟩
      simpa using skipSpace_to before notSpace (u ++ (ws' ++ ',' :: (s ++ r)))

theorem Passed.firstMember {s : List Char} (passed : Passed .members s) (r : List Char) :
    ∃ u, skipSpace (s ++ r) = '"' :: u := by
  cases passed with
  | lastMember before _ _ _ _ _ =>
      rw [List.append_assoc, List.cons_append]
      exact ⟨_, skipSpace_to before rfl _⟩
  | member before _ _ _ _ _ _ =>
      rw [List.append_assoc, List.cons_append]
      exact ⟨_, skipSpace_to before rfl _⟩

/-- Fuel that is more than a number is not empty. -/
theorem succ_of_lt {n fuel : Nat} (enough : n < fuel) : ∃ m, fuel = m + 1 ∧ n ≤ m :=
  ⟨fuel - 1, by omega, by omega⟩

/-- A value is passed over from its first character on, for which there is a piece of fuel. -/
theorem Part.passes_cons {c : Char} {u : List Char} (notSpace : isSpace c = false)
    (pass : ∀ {rest : List Char} (fuel : Nat), Ends rest → 2 * u.length < fuel →
      skipValueFrom (fuel + 1) (c :: (u ++ rest)) = .ok rest) :
    Part.value.Passes (c :: u) := by
  intro ws rest fuel blank ends enough
  rw [List.length_cons] at enough
  -- one piece is spent here, the other one where the inside of brackets is read
  have more : 2 * u.length + 1 < fuel := by omega
  obtain ⟨n, rfl, left⟩ := succ_of_lt more
  rw [← skipValueFrom_skipSpace, List.cons_append, skipSpace_to blank notSpace]
  exact pass n ends left

theorem passes_null : Part.value.Passes ['n', 'u', 'l', 'l'] := by
  refine Part.passes_cons rfl fun fuel _ _ => ?_
  simp [skipValueFrom, skipSpace_cons (c := 'n') rfl, word]

theorem passes_boolean {b : Bool} {t : List Char} (holds : Grammar.boolean t b) :
    Part.value.Passes t := by
  cases b
  · cases holds
    refine Part.passes_cons rfl fun fuel _ _ => ?_
    simp [skipValueFrom, skipSpace_cons (c := 'f') rfl, word]
  · cases holds
    refine Part.passes_cons rfl fun fuel _ _ => ?_
    simp [skipValueFrom, skipSpace_cons (c := 't') rfl, word]

theorem passes_number {t : List Char} (numeral : Numeral t) : Part.value.Passes t := by
  cases numeral with
  | positive unsigned =>
      obtain ⟨c, s, rfl, digit⟩ := unsigned_first unsigned
      obtain ⟨notN, notT, notF, notMinus⟩ := isDigit_ne digit
      have notSpace := isSpace_of_isDigit digit
      refine Part.passes_cons notSpace fun {rest} fuel ends _ => ?_
      have skipped : skipNumber (c :: (s ++ rest)) = .ok rest :=
        skipNumber_unsigned unsigned ends.stops
      simp only [skipValueFrom, skipSpace_cons notSpace, notN, notT, notF, notMinus, digit,
        if_false, if_true, skipped]
  | negative unsigned =>
      refine Part.passes_cons rfl fun fuel ends _ => ?_
      have skipped := skipNumber_unsigned unsigned ends.stops
      simp [skipValueFrom, skipSpace_cons (c := '-') rfl, skipped]

theorem passes_text {s : List Char} (unread : Unread s) :
    Part.value.Passes ('"' :: (s ++ ['"'])) := by
  refine Part.passes_cons rfl fun fuel _ _ => ?_
  simp [skipValueFrom, skipSpace_cons (c := '"') rfl, skipText_unread unread, isDigit]

theorem passes_list {s : List Char} (items : Passed .items s) (passes : Part.items.Passes s) :
    Part.value.Passes ('[' :: (s ++ [']'])) := by
  refine Part.passes_cons rfl fun {rest} fuel _ enough => ?_
  have inner : skipItemsFrom fuel (s ++ ']' :: rest) = .ok rest := by
    refine passes ?_
    simp only [List.length_append, List.length_singleton] at enough
    omega
  obtain ⟨c, u, skipped, notEnd⟩ := items.firstItem (']' :: rest)
  rw [← skipItemsFrom_skipSpace, skipped] at inner
  simp [skipValueFrom_list, skipped, notEnd, inner]

theorem passes_object {s : List Char} (members : Passed .members s)
    (passes : Part.members.Passes s) : Part.value.Passes ('{' :: (s ++ ['}'])) := by
  refine Part.passes_cons rfl fun {rest} fuel _ enough => ?_
  have inner : skipMembersFrom fuel (s ++ '}' :: rest) = .ok rest := by
    refine passes ?_
    simp only [List.length_append, List.length_singleton] at enough
    omega
  obtain ⟨u, skipped⟩ := members.firstMember ('}' :: rest)
  rw [← skipMembersFrom_skipSpace, skipped] at inner
  simp [skipValueFrom_object, skipped, inner]

/-- One item, up to what is behind the white space after it. -/
theorem skipItemsFrom_item {ws t ws' rest : List Char} {c : Char} {fuel : Nat} (before : Blank ws)
    (passes : Part.value.Passes t) (after : Blank ws') (notSpace : isSpace c = false)
    (ends : Ends (c :: rest)) (enough : 2 * t.length ≤ fuel) :
    skipItemsFrom (fuel + 1) (ws ++ (t ++ (ws' ++ c :: rest))) =
      if c = ',' then skipItemsFrom fuel rest
      else if c = ']' then .ok rest
      else .error (.before .expectedCommaOrBracket (c :: rest)) := by
  have value := passes before (ends_append after ends) enough
  simp only [skipItemsFrom, value, skipSpace_to after notSpace]

theorem passes_lastItem {ws t ws' : List Char} (before : Blank ws) (passes : Part.value.Passes t)
    (after : Blank ws') : Part.items.Passes (ws ++ (t ++ ws')) := by
  intro rest fuel enough
  obtain ⟨n, rfl, enough⟩ := succ_of_lt enough
  simp only [List.length_append] at enough
  have short : 2 * t.length ≤ n := by omega
  have item := skipItemsFrom_item before passes after (c := ']') rfl (ends_bracket rest) short
  simpa using item

theorem passes_item {ws t ws' s : List Char} (before : Blank ws) (passes : Part.value.Passes t)
    (after : Blank ws') (others : Part.items.Passes s) :
    Part.items.Passes (ws ++ (t ++ (ws' ++ ',' :: s))) := by
  intro rest fuel enough
  obtain ⟨n, rfl, enough⟩ := succ_of_lt enough
  simp only [List.length_append, List.length_cons] at enough
  have short : 2 * t.length ≤ n := by omega
  have item := skipItemsFrom_item before passes after (c := ',') rfl (ends_comma (s ++ ']' :: rest))
    short
  have more : skipItemsFrom n (s ++ ']' :: rest) = .ok rest := others (by omega)
  simpa [more] using item

/-- One member, up to what is behind the white space after it. -/
theorem skipMembersFrom_member {ws key ws₁ ws₂ t ws' rest : List Char} {c : Char} {fuel : Nat}
    (before : Blank ws) (unread : Unread key) (blank₁ : Blank ws₁) (blank₂ : Blank ws₂)
    (passes : Part.value.Passes t) (after : Blank ws') (notSpace : isSpace c = false)
    (ends : Ends (c :: rest)) (enough : 2 * t.length ≤ fuel) :
    skipMembersFrom (fuel + 1)
        (ws ++ '"' :: (key ++ '"' :: (ws₁ ++ ':' :: (ws₂ ++ (t ++ (ws' ++ c :: rest)))))) =
      if c = ',' then skipMembersFrom fuel rest
      else if c = '}' then .ok rest
      else .error (.before .expectedCommaOrBrace (c :: rest)) := by
  have value := passes blank₂ (ends_append after ends) enough
  have coloned : ∀ s, colon (ws₁ ++ ':' :: s) = .ok s := by
    intro s
    simp [colon, skipSpace_to blank₁ (c := ':') rfl]
  simp only [skipMembersFrom, skipSpace_to before (c := '"') rfl, ne_eq, not_true_eq_false,
    if_false, skipText_unread unread, coloned, value, skipSpace_to after notSpace]

section Members

variable {ws key ws₁ ws₂ t ws' : List Char} (before : Blank ws) (unread : Unread key)
  (blank₁ : Blank ws₁) (blank₂ : Blank ws₂) (passes : Part.value.Passes t) (after : Blank ws')

include before unread blank₁ blank₂ passes after

theorem passes_lastMember : Part.members.Passes
    (ws ++ '"' :: (key ++ '"' :: (ws₁ ++ ':' :: (ws₂ ++ (t ++ ws'))))) := by
  intro rest fuel enough
  obtain ⟨n, rfl, enough⟩ := succ_of_lt enough
  simp only [List.length_append, List.length_cons] at enough
  have short : 2 * t.length ≤ n := by omega
  have member := skipMembersFrom_member before unread blank₁ blank₂ passes after (c := '}') rfl
    (ends_brace rest) short
  simpa using member

theorem passes_member {s : List Char} (others : Part.members.Passes s) : Part.members.Passes
    (ws ++ '"' :: (key ++ '"' :: (ws₁ ++ ':' :: (ws₂ ++ (t ++ (ws' ++ ',' :: s)))))) := by
  intro rest fuel enough
  obtain ⟨n, rfl, enough⟩ := succ_of_lt enough
  simp only [List.length_append, List.length_cons] at enough
  have short : 2 * t.length ≤ n := by omega
  have member := skipMembersFrom_member before unread blank₁ blank₂ passes after (c := ',') rfl
    (ends_comma (s ++ '}' :: rest)) short
  have more : skipMembersFrom n (s ++ '}' :: rest) = .ok rest := others (by omega)
  simpa [more] using member

end Members

/-- Every text of the grammar is passed over; twice its length is fuel enough. -/
theorem Passed.passes {part : Part} {t : List Char} (passed : Passed part t) : part.Passes t := by
  induction passed with
  | null => exact passes_null
  | boolean b holds => exact passes_boolean holds
  | number numeral => exact passes_number numeral
  | text unread => exact passes_text unread
  | emptyList inside =>
      refine Part.passes_cons rfl fun fuel _ _ => ?_
      simp [skipValueFrom_list, skipSpace_to inside (c := ']') rfl]
  | list items passes => exact passes_list items passes
  | emptyObject inside =>
      refine Part.passes_cons rfl fun fuel _ _ => ?_
      simp [skipValueFrom_object, skipSpace_to inside (c := '}') rfl]
  | object members passes => exact passes_object members passes
  | lastItem before _ after passes => exact passes_lastItem before passes after
  | item before _ after _ passes others => exact passes_item before passes after others
  | lastMember before unread blank₁ blank₂ _ after passes =>
      exact passes_lastMember before unread blank₁ blank₂ passes after
  | member before unread blank₁ blank₂ _ after _ passes others =>
      exact passes_member before unread blank₁ blank₂ passes after others

theorem skipValue_passed {ws t rest : List Char} (blank : Blank ws) (passed : Passed .value t)
    (ends : Ends rest) : skipValue (ws ++ (t ++ rest)) = .ok rest := by
  refine passed.passes blank ends ?_
  simp only [List.length_append]
  omega

/-! ## Nothing else is passed over -/

/-- What was passed over as a part is a text of the grammar. -/
def Part.Accepts (fuel : Nat) : Part → Prop
  | value => ∀ ⦃s r⦄, skipValueFrom fuel s = .ok r →
      ∃ ws t, Blank ws ∧ Passed .value t ∧ s = ws ++ (t ++ r)
  | items => ∀ ⦃s r⦄, skipItemsFrom fuel s = .ok r → ∃ t, Passed .items t ∧ s = t ++ ']' :: r
  | members => ∀ ⦃s r⦄, skipMembersFrom fuel s = .ok r → ∃ t, Passed .members t ∧ s = t ++ '}' :: r

theorem Passed.items_blank {ws s : List Char} (blank : Blank ws) (passed : Passed .items s) :
    Passed .items (ws ++ s) := by
  cases passed with
  | lastItem before value after =>
      rw [← List.append_assoc]
      exact .lastItem (blank_append blank before) value after
  | item before value after rest =>
      rw [← List.append_assoc]
      exact .item (blank_append blank before) value after rest

theorem Passed.members_blank {ws s : List Char} (blank : Blank ws) (passed : Passed .members s) :
    Passed .members (ws ++ s) := by
  cases passed with
  | lastMember before unread blank₁ blank₂ value after =>
      rw [← List.append_assoc]
      exact .lastMember (blank_append blank before) unread blank₁ blank₂ value after
  | member before unread blank₁ blank₂ value after rest =>
      rw [← List.append_assoc]
      exact .member (blank_append blank before) unread blank₁ blank₂ value after rest

theorem passed_of_list {fuel : Nat} (items : Part.items.Accepts fuel) {s r : List Char}
    (skipped : skipValueFrom (fuel + 1) ('[' :: s) = .ok r) :
    ∃ t, Passed .value t ∧ '[' :: s = t ++ r := by
  rw [skipValueFrom_list] at skipped
  split at skipped
  · cases skipped
  · next inside =>
    obtain ⟨ws, blank, rfl, -⟩ := skipSpace_eq_cons inside
    split at skipped
    · next isEnd =>
      cases skipped
      exact ⟨_, .emptyList blank, by simp [isEnd]⟩
    · obtain ⟨t, holds, same⟩ := items skipped
      exact ⟨_, .list (holds.items_blank blank), by simp [same]⟩

theorem passed_of_object {fuel : Nat} (members : Part.members.Accepts fuel) {s r : List Char}
    (skipped : skipValueFrom (fuel + 1) ('{' :: s) = .ok r) :
    ∃ t, Passed .value t ∧ '{' :: s = t ++ r := by
  rw [skipValueFrom_object] at skipped
  split at skipped
  · cases skipped
  · next inside =>
    obtain ⟨ws, blank, rfl, -⟩ := skipSpace_eq_cons inside
    split at skipped
    · next isEnd =>
      cases skipped
      exact ⟨_, .emptyObject blank, by simp [isEnd]⟩
    · obtain ⟨t, holds, same⟩ := members skipped
      exact ⟨_, .object (holds.members_blank blank), by simp [same]⟩

/-- Values that hold no others. -/
theorem passed_of_scalar {fuel : Nat} {c : Char} {s r : List Char} (notSpace : isSpace c = false)
    (notList : c ≠ '[') (notObject : c ≠ '{')
    (skipped : skipValueFrom (fuel + 1) (c :: s) = .ok r) :
    ∃ t, Passed .value t ∧ c :: s = t ++ r := by
  simp only [skipValueFrom, skipSpace_cons notSpace, notList, notObject, if_false] at skipped
  by_cases isN : c = 'n'
  · rw [if_pos isN] at skipped
    exact ⟨_, .null, by rw [isN, word_eq_ok skipped]; rfl⟩
  by_cases isT : c = 't'
  · rw [if_neg isN, if_pos isT] at skipped
    exact ⟨_, .boolean true rfl, by rw [isT, word_eq_ok skipped]; rfl⟩
  by_cases isF : c = 'f'
  · rw [if_neg isN, if_neg isT, if_pos isF] at skipped
    exact ⟨_, .boolean false rfl, by rw [isF, word_eq_ok skipped]; rfl⟩
  rw [if_neg isN, if_neg isT, if_neg isF] at skipped
  by_cases isMinus : c = '-'
  · rw [if_pos isMinus] at skipped
    obtain ⟨t, unsigned, rfl⟩ := unsigned_of_skipNumber skipped
    exact ⟨_, .number (.negative unsigned), by rw [isMinus]; rfl⟩
  by_cases digit : isDigit c = true
  · rw [if_neg isMinus, if_pos digit] at skipped
    obtain ⟨t, unsigned, same⟩ := unsigned_of_skipNumber skipped
    exact ⟨t, .number (.positive unsigned), same⟩
  rw [if_neg isMinus, if_neg digit] at skipped
  by_cases isQuote : c = '"'
  · rw [if_pos isQuote] at skipped
    obtain ⟨body, unread, rfl⟩ := unread_of_skipTextFrom skipped
    exact ⟨_, .text unread, by simp [isQuote]⟩
  rw [if_neg isQuote] at skipped
  cases skipped

theorem accepts_value {fuel : Nat} (items : Part.items.Accepts fuel)
    (members : Part.members.Accepts fuel) : Part.value.Accepts (fuel + 1) := by
  intro s r skipped
  rw [← skipValueFrom_skipSpace] at skipped
  cases first : skipSpace s with
  | nil =>
      rw [first] at skipped
      cases skipped
  | cons c s' =>
      rw [first] at skipped
      obtain ⟨ws, blank, rfl, notSpace⟩ := skipSpace_eq_cons first
      have value : ∃ t, Passed .value t ∧ c :: s' = t ++ r := by
        by_cases isList : c = '['
        · subst isList
          exact passed_of_list items skipped
        · by_cases isObject : c = '{'
          · subst isObject
            exact passed_of_object members skipped
          · exact passed_of_scalar notSpace isList isObject skipped
      obtain ⟨t, passed, same⟩ := value
      exact ⟨ws, t, blank, passed, congrArg (ws ++ ·) same⟩

theorem accepts_items {fuel : Nat} (value : Part.value.Accepts fuel)
    (items : Part.items.Accepts fuel) : Part.items.Accepts (fuel + 1) := by
  intro s r skipped
  simp only [skipItemsFrom] at skipped
  split at skipped
  · cases skipped
  · next one =>
    obtain ⟨ws, t, blank, passed, rfl⟩ := value one
    split at skipped
    · cases skipped
    · next first =>
      obtain ⟨ws', blank', rfl, -⟩ := skipSpace_eq_cons first
      split at skipped
      · next isComma =>
        obtain ⟨others, rest, rfl⟩ := items skipped
        exact ⟨_, .item blank passed blank' rest, by simp [isComma]⟩
      · split at skipped
        · next isEnd =>
          cases skipped
          exact ⟨_, .lastItem blank passed blank', by simp [isEnd]⟩
        · cases skipped

theorem accepts_members {fuel : Nat} (value : Part.value.Accepts fuel)
    (members : Part.members.Accepts fuel) : Part.members.Accepts (fuel + 1) := by
  intro s r skipped
  simp only [skipMembersFrom] at skipped
  split at skipped
  · cases skipped
  · next q k start =>
    obtain ⟨ws, blank, rfl, -⟩ := skipSpace_eq_cons start
    split at skipped
    · cases skipped
    · next isQuote =>
      split at skipped
      · cases skipped
      · next keyed =>
        obtain ⟨key, unread, rfl⟩ := unread_of_skipTextFrom keyed
        split at skipped
        · cases skipped
        · next coloned =>
          obtain ⟨ws₁, blank₁, rfl⟩ := colon_eq_ok coloned
          split at skipped
          · cases skipped
          · next one =>
            obtain ⟨ws₂, t, blank₂, passed, rfl⟩ := value one
            split at skipped
            · cases skipped
            · next first =>
              obtain ⟨ws', blank', rfl, -⟩ := skipSpace_eq_cons first
              rw [not_not.1 isQuote]
              split at skipped
              · next isComma =>
                obtain ⟨others, rest, rfl⟩ := members skipped
                exact ⟨_, .member blank unread blank₁ blank₂ passed blank' rest, by simp [isComma]⟩
              · split at skipped
                · next isEnd =>
                  cases skipped
                  exact ⟨_, .lastMember blank unread blank₁ blank₂ passed blank', by simp [isEnd]⟩
                · cases skipped

/-- Every part that is passed over is a text of the grammar, whatever the fuel. -/
theorem Part.accepts : ∀ (fuel : Nat) (part : Part), part.Accepts fuel
  | 0, part => by
      cases part <;>
        · intro s r skipped
          simp only [skipValueFrom, skipItemsFrom, skipMembersFrom] at skipped
          cases skipped
  | fuel + 1, part => by
      -- the three parts call one another, each time with less fuel
      have value := Part.accepts fuel .value
      have items := Part.accepts fuel .items
      have members := Part.accepts fuel .members
      cases part with
      | value => exact accepts_value items members
      | items => exact accepts_items value items
      | members => exact accepts_members value members

theorem passed_of_skipValue {s r : List Char} (skipped : skipValue s = .ok r) :
    ∃ ws t, Blank ws ∧ Passed .value t ∧ s = ws ++ (t ++ r) :=
  Part.accepts _ .value skipped

end ThemeEditor.Json
