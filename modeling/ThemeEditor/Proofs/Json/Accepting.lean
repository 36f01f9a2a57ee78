/-
# ThemeEditor.Proofs.Json.Accepting -- what a reader reads is a text of its grammar

Reading a grammar (`Reads`) says that a reader gets every text of the grammar.
This module says the converse: whatever a reader takes from its input is white
space and then one text of the grammar, standing for the value that it returns
(`Accepts`).  It holds of texts (`accepts_text`), of the two words for booleans,
of lists of anything that is accepted (`accepts_list`), and of objects, whose
members are taken from a state to the next one (`accepts_object`).

A reader that does both is `Exact`.  A document of an exact reader is a text of
its grammar with white space around it, and nothing else is
(`document_eq_ok_iff`).
-/
import Mathlib.Data.List.TakeWhile
import ThemeEditor.Proofs.Json.Reading

namespace ThemeEditor.Json

set_option autoImplicit false

/-- What `reader` takes is white space and a text of `grammar`, which stands for the
value that it returns. -/
def Accepts {α : Type} (reader : Reader α) (grammar : Grammar α) : Prop :=
  ∀ ⦃s a r⦄, reader s = .ok (a, r) → ∃ ws t, Blank ws ∧ grammar t a ∧ s = ws ++ (t ++ r)

/-! ## White space -/

theorem blank_takeWhile (s : List Char) : Blank (s.takeWhile isSpace) :=
  fun _ member => List.mem_takeWhile_imp member

/-- What is left behind white space starts with another character. -/
theorem skipSpace_eq_cons {s r : List Char} {c : Char} (skipped : skipSpace s = c :: r) :
    ∃ ws, Blank ws ∧ s = ws ++ c :: r ∧ isSpace c = false := by
  refine ⟨s.takeWhile isSpace, blank_takeWhile s, ?_, ?_⟩
  · rw [← skipped, skipSpace, List.takeWhile_append_dropWhile]
  · have first := List.head?_dropWhile_not isSpace s
    rw [skipSpace] at skipped
    rw [skipped] at first
    simpa using first

theorem blank_of_skipSpace {s : List Char} (skipped : skipSpace s = []) : Blank s := by
  intro c member
  exact List.dropWhile_eq_nil_iff.1 skipped c member

/-! ## Texts -/

theorem hexCode_eq_ok {s r : List Char} {n : Nat} (read : hexCode s = .ok (n, r)) :
    ∃ a b c d, s = a :: b :: c :: d :: r ∧ hexCode? a b c d = some n := by
  unfold hexCode at read
  split at read
  · next a b c d r' =>
    split at read
    · next code =>
      cases read
      exact ⟨a, b, c, d, rfl, code⟩
    · cases read
  · split at read <;> cases read

/-- An escape is a letter with a meaning, or `u` and four digits. -/
theorem escape_eq_ok {s r : List Char} {e : Escape} (read : escape s = .ok (e, r)) :
    (∃ c m, s = c :: r ∧ shortEscape? c = some m ∧ e = .character m) ∨
      ∃ a b c d n, s = 'u' :: a :: b :: c :: d :: r ∧ hexCode? a b c d = some n ∧ e = .unit n := by
  unfold escape at read
  split at read
  · cases read
  · next c r' =>
    split at read
    · next isUnit =>
      split at read
      · cases read
      · next coded =>
        cases read
        obtain ⟨a, b, c, d, rfl, code⟩ := hexCode_eq_ok coded
        exact .inr ⟨a, b, c, d, _, by rw [isUnit], code, rfl⟩
    · split at read
      · next known =>
        cases read
        exact .inl ⟨c, _, rfl, known, rfl⟩
      · cases read

/-- A lead surrogate is followed by a trail in digits of its own. -/
theorem trailAfter_eq_ok {lead : Nat} {s r : List Char} {u : Char}
    (read : trailAfter lead s = .ok (u, r)) :
    ∃ a b c d trail, s = '\\' :: 'u' :: a :: b :: c :: d :: r ∧
      hexCode? a b c d = some trail ∧ isTrail trail = true ∧ pairedChar lead trail = u := by
  unfold trailAfter at read
  split at read
  · cases read
  · split at read <;> cases read
  · next e u' r' =>
    split at read
    · cases read
    · next isEscape =>
      split at read
      · cases read
      · next isUnit =>
        rw [not_not.1 isEscape, not_not.1 isUnit]
        split at read
        · cases read
        · next coded =>
          split at read
          · next trail =>
            obtain ⟨same, rfl⟩ := Prod.mk.inj (Except.ok.inj read)
            obtain ⟨a, b, c, d, rfl, code⟩ := hexCode_eq_ok coded
            exact ⟨a, b, c, d, _, rfl, code, trail, same⟩
          · cases read

/-- The characters of one 16-bit unit, with the trail that belongs to a lead. -/
theorem spelling_of_unitChar {a b c d u : Char} {n : Nat} {s r : List Char}
    (code : hexCode? a b c d = some n) (read : unitChar n s = .ok (u, r)) :
    ∃ p, Spelling p u ∧ '\\' :: 'u' :: a :: b :: c :: d :: s = p ++ r := by
  unfold unitChar at read
  split at read
  · cases read
  · next notTrail =>
    split at read
    · next lead =>
      obtain ⟨a', b', c', d', trail, rfl, trailCode, isTrail, rfl⟩ := trailAfter_eq_ok read
      exact ⟨_, .pair code trailCode lead isTrail, rfl⟩
    · next notLead =>
      obtain ⟨rfl, rfl⟩ := Prod.mk.inj (Except.ok.inj read)
      exact ⟨_, .unit code (by simpa using notLead) (by simpa using notTrail), rfl⟩

/-- A piece that stands for a character is a spelling of it. -/
theorem spelling_of_piece {s r : List Char} {c : Char} (read : piece s = .ok (some c, r)) :
    ∃ p, Spelling p c ∧ s = p ++ r := by
  unfold piece at read
  split at read
  · cases read
  · next c' r' =>
    split at read
    · cases read
    · next notQuote =>
      split at read
      · next isEscape =>
        rw [isEscape]
        split at read
        · cases read
        · next escaped =>
          -- only the escapes of one letter are characters by themselves
          obtain ⟨same, rfl⟩ := Prod.mk.inj (Except.ok.inj read)
          rcases escape_eq_ok escaped with
            ⟨e, m, rfl, known, isShort⟩ | ⟨_, _, _, _, _, _, _, other⟩
          · cases isShort
            cases same
            exact ⟨['\\', e], .short known, rfl⟩
          · cases other
        · next escaped =>
          split at read
          · cases read
          · next coded =>
            obtain ⟨same, rfl⟩ := Prod.mk.inj (Except.ok.inj read)
            cases same
            rcases escape_eq_ok escaped with
              ⟨_, _, _, _, other⟩ | ⟨a, b, c, d, n, rfl, code, isUnit⟩
            · cases other
            · cases isUnit
              exact spelling_of_unitChar code coded
      · next notEscape =>
        split at read
        · cases read
        · next printed =>
          obtain ⟨same, rfl⟩ := Prod.mk.inj (Except.ok.inj read)
          cases same
          exact ⟨[c], .plain notQuote notEscape printed, rfl⟩

/-- A piece that stands for nothing is the closing quotation mark. -/
theorem quote_of_piece {s r : List Char} (read : piece s = .ok (none, r)) : s = '"' :: r := by
  unfold piece at read
  split at read
  · cases read
  · split at read
    · next isQuote =>
      cases read
      rw [isQuote]
    · split at read
      · split at read
        · cases read
        · cases read
        · split at read <;> cases read
      · split at read <;> cases read

theorem spelled_of_textFrom : ∀ {fuel : Nat} {s cs r : List Char},
    textFrom fuel s = .ok (cs, r) → ∃ body, Spelled body cs ∧ s = body ++ '"' :: r
  | 0, s, cs, r, read => by
      simp only [textFrom] at read
      cases read
  | fuel + 1, s, cs, r, read => by
      simp only [textFrom] at read
      split at read
      · cases read
      · next ended =>
        obtain ⟨rfl, rfl⟩ := Prod.mk.inj (Except.ok.inj read)
        exact ⟨[], .nil, quote_of_piece ended⟩
      · next taken =>
        split at read
        · cases read
        · next others =>
          obtain ⟨rfl, rfl⟩ := Prod.mk.inj (Except.ok.inj read)
          obtain ⟨p, spelling, rfl⟩ := spelling_of_piece taken
          obtain ⟨body, spelled, rfl⟩ := spelled_of_textFrom others
          exact ⟨p ++ body, .cons spelling spelled, by simp⟩

theorem spelled_of_textBody {s r : List Char} {text : String}
    (read : textBody s = .ok (text, r)) :
    ∃ body, Spelled body text.toList ∧ s = body ++ '"' :: r := by
  unfold textBody at read
  split at read
  · cases read
  · next characters =>
    obtain ⟨rfl, rfl⟩ := Prod.mk.inj (Except.ok.inj read)
    rw [String.toList_ofList]
    exact spelled_of_textFrom characters

theorem accepts_text : Accepts text Grammar.text := by
  intro s a r read
  unfold text at read
  split at read
  · cases read
  · next skipped =>
    split at read
    · next isQuote =>
      obtain ⟨ws, blank, rfl, -⟩ := skipSpace_eq_cons skipped
      obtain ⟨body, spelled, rfl⟩ := spelled_of_textBody read
      exact ⟨ws, '"' :: (body ++ ['"']), blank, ⟨body, spelled, rfl⟩, by simp [isQuote]⟩
    · cases read

/-! ## Words -/

theorem word_eq_ok : ∀ {w s r : List Char}, word w s = .ok r → s = w ++ r
  | [], s, r, read => by
      simp only [word] at read
      cases read
      rfl
  | w :: ws, [], r, read => by
      simp only [word] at read
      cases read
  | w :: ws, c :: s, r, read => by
      simp only [word] at read
      split at read
      · next same =>
        rw [same, word_eq_ok read]
        rfl
      · cases read

theorem map_eq_ok {ε α β : Type} {f : α → β} {x : Except ε α} {b : β} (mapped : x.map f = .ok b) :
    ∃ a, x = .ok a ∧ f a = b := by
  cases x with
  | error e => cases mapped
  | ok a => exact ⟨a, rfl, Except.ok.inj mapped⟩

theorem accepts_boolean : Accepts boolean Grammar.boolean := by
  intro s b r read
  unfold boolean at read
  split at read
  · cases read
  · next skipped =>
    obtain ⟨ws, blank, rfl, -⟩ := skipSpace_eq_cons skipped
    split at read
    · next isT =>
      obtain ⟨r', spelled, same⟩ := map_eq_ok read
      cases same
      refine ⟨ws, ['t', 'r', 'u', 'e'], blank, rfl, ?_⟩
      rw [isT, word_eq_ok spelled]
      rfl
    · split at read
      · next isF =>
        obtain ⟨r', spelled, same⟩ := map_eq_ok read
        cases same
        refine ⟨ws, ['f', 'a', 'l', 's', 'e'], blank, rfl, ?_⟩
        rw [isF, word_eq_ok spelled]
        rfl
      · cases read

/-- A reader that converts what another one read. -/
theorem Accepts.map {α β : Type} {reader : Reader α} {g : Grammar α} (base : Accepts reader g)
    (f : α → β) {converted : Reader β}
    (same : ∀ s, converted s = (reader s).map fun p => (f p.1, p.2)) :
    Accepts converted (g.map f) := by
  intro s b r read
  rw [same] at read
  obtain ⟨⟨a, r'⟩, taken, converts⟩ := map_eq_ok read
  cases converts
  obtain ⟨ws, t, blank, holds, rfl⟩ := base taken
  exact ⟨ws, t, blank, ⟨a, holds, rfl⟩, rfl⟩

/-! ## Items and members -/

theorem blank_append {ws ws' : List Char} (blank : Blank ws) (blank' : Blank ws') :
    Blank (ws ++ ws') := by
  intro c member
  rcases List.mem_append.1 member with member | member
  · exact blank c member
  · exact blank' c member

theorem nextItem_eq_more {first : Bool} {s r : List Char}
    (next : nextItem first s = .ok (.more r)) :
    ∃ lead ws, Lead first lead ∧ Blank ws ∧ s = lead ++ (ws ++ r) := by
  unfold nextItem at next
  split at next
  · cases next
  · next skipped =>
    obtain ⟨ws, blank, rfl, -⟩ := skipSpace_eq_cons skipped
    split at next
    · cases next
    · split at next
      · next isFirst =>
        cases next
        rw [isFirst]
        exact ⟨[], ws, .first, blank, rfl⟩
      · next notFirst =>
        split at next
        · next isComma =>
          split at next
          · cases next
          · next skipped' =>
            obtain ⟨ws', blank', rfl, -⟩ := skipSpace_eq_cons skipped'
            split at next
            · cases next
            · cases next
              rw [eq_false_of_ne_true notFirst, isComma]
              exact ⟨ws ++ [','], ws', .comma blank, blank', by simp⟩
        · cases next

theorem nextItem_eq_closed {first : Bool} {s r : List Char}
    (next : nextItem first s = .ok (.closed r)) : ∃ ws, Blank ws ∧ s = ws ++ ']' :: r := by
  unfold nextItem at next
  split at next
  · cases next
  · next skipped =>
    obtain ⟨ws, blank, rfl, -⟩ := skipSpace_eq_cons skipped
    split at next
    · next isEnd =>
      cases next
      exact ⟨ws, blank, by rw [isEnd]⟩
    · split at next
      · cases next
      · split at next
        · split at next
          · cases next
          · split at next <;> cases next
        · cases next

theorem nextKey_eq_more {first : Bool} {s r : List Char} (next : nextKey first s = .ok (.more r)) :
    ∃ lead ws, Lead first lead ∧ Blank ws ∧ s = lead ++ (ws ++ '"' :: r) := by
  unfold nextKey at next
  split at next
  · cases next
  · next skipped =>
    obtain ⟨ws, blank, rfl, -⟩ := skipSpace_eq_cons skipped
    split at next
    · cases next
    · split at next
      · next isFirst =>
        split at next
        · next isQuote =>
          cases next
          rw [isFirst, isQuote]
          exact ⟨[], ws, .first, blank, rfl⟩
        · cases next
      · next notFirst =>
        split at next
        · next isComma =>
          split at next
          · cases next
          · next skipped' =>
            obtain ⟨ws', blank', rfl, -⟩ := skipSpace_eq_cons skipped'
            split at next
            · next isQuote =>
              cases next
              rw [eq_false_of_ne_true notFirst, isComma, isQuote]
              exact ⟨ws ++ [','], ws', .comma blank, blank', by simp⟩
            · split at next <;> cases next
        · cases next

theorem nextKey_eq_closed {first : Bool} {s r : List Char}
    (next : nextKey first s = .ok (.closed r)) : ∃ ws, Blank ws ∧ s = ws ++ '}' :: r := by
  unfold nextKey at next
  split at next
  · cases next
  · next skipped =>
    obtain ⟨ws, blank, rfl, -⟩ := skipSpace_eq_cons skipped
    split at next
    · next isEnd =>
      cases next
      exact ⟨ws, blank, by rw [isEnd]⟩
    · split at next
      · split at next <;> cases next
      · split at next
        · split at next
          · cases next
          · split at next
            · cases next
            · split at next <;> cases next
        · cases next

/-- What is left of a list or an object: its end, or items behind what leads to them.
The last characters are those behind the closing bracket. -/
inductive Remaining {α : Type} (close : Char) (item : Grammar α) (first : Bool) :
    List Char → List α → List Char → Prop where
  | closed {ws r : List Char} (blank : Blank ws) :
      Remaining close item first (ws ++ close :: r) [] r
  | items {lead s r : List Char} {as : List α} (leads : Lead first lead)
      (holds : Items item s as) : Remaining close item first (lead ++ (s ++ close :: r)) as r

/-- One item before the remaining ones. -/
theorem Remaining.cons {α : Type} {close : Char} {item : Grammar α} {first : Bool}
    {lead ws t s r : List Char} {a : α} {as : List α} (leads : Lead first lead) (blank : Blank ws)
    (holds : item t a) (others : Remaining close item false s as r) :
    Remaining close item first (lead ++ (ws ++ (t ++ s))) (a :: as) r := by
  cases others with
  | closed blank' =>
      have one : Remaining close item first _ [a] r := .items leads (.single blank holds blank')
      simpa using one
  | items leads' items =>
      cases leads' with
      | comma blank' =>
          have more : Remaining close item first _ (a :: as) r :=
            .items leads (.cons blank holds blank' items)
          simpa using more

/-- What remains behind the opening bracket is enclosed. -/
theorem Remaining.enclosed {α : Type} {right : Char} {item : Grammar α} {s r : List Char}
    {as : List α} (remaining : Remaining right item true s as r) (left : Char) :
    ∃ t, Enclosed left right item t as ∧ left :: s = t ++ r := by
  cases remaining with
  | closed blank => exact ⟨left :: (_ ++ [right]), .empty blank, by simp⟩
  | items leads holds =>
      cases leads
      exact ⟨left :: (_ ++ [right]), .items holds, by simp⟩

theorem remaining_of_itemsFrom {α : Type} {item : Reader α} {g : Grammar α}
    (base : Accepts item g) : ∀ {fuel : Nat} {first : Bool} {s r : List Char} {as : List α},
      itemsFrom item fuel first s = .ok (as, r) → Remaining ']' g first s as r
  | 0, first, s, r, as, read => by
      simp only [itemsFrom] at read
      cases read
  | fuel + 1, first, s, r, as, read => by
      simp only [itemsFrom] at read
      split at read
      · cases read
      · next closed =>
        cases read
        obtain ⟨ws, blank, rfl⟩ := nextItem_eq_closed closed
        exact .closed blank
      · next more =>
        obtain ⟨lead, ws, leads, blank, rfl⟩ := nextItem_eq_more more
        split at read
        · cases read
        · next taken =>
          split at read
          · cases read
          · next others =>
            cases read
            obtain ⟨ws', t, blank', holds, rfl⟩ := base taken
            -- white space before an item is skipped twice
            have all := Remaining.cons leads (blank_append blank blank') holds
              (remaining_of_itemsFrom base others)
            rwa [List.append_assoc] at all

/-- A list is accepted if its items are. -/
theorem accepts_list {α : Type} {item : Reader α} {g : Grammar α} (base : Accepts item g) :
    Accepts (list item) (Grammar.list g) := by
  intro s as r read
  unfold list at read
  split at read
  · cases read
  · next skipped =>
    obtain ⟨ws, blank, rfl, -⟩ := skipSpace_eq_cons skipped
    split at read
    · next isBracket =>
      obtain ⟨t, enclosed, same⟩ := (remaining_of_itemsFrom base read).enclosed '['
      exact ⟨ws, t, blank, enclosed, by rw [isBracket, same]⟩
    · cases read

/-- Behind a key, `member` takes a colon and a value of the key's grammar, and leaves
what `step` makes of the state. -/
def Gives {σ β : Type} (member : σ → String → Reader σ) (value : String → Grammar β)
    (step : σ → String × β → Option σ) : Prop :=
  ∀ ⦃st key st' s r⦄, member st key s = .ok (st', r) → ∃ b ws ws' t,
    step st (key, b) = some st' ∧ value key t b ∧ Blank ws ∧ Blank ws' ∧
      s = ws ++ ':' :: (ws' ++ (t ++ r))

theorem remaining_of_membersFrom {σ β : Type} {member : σ → String → Reader σ}
    {value : String → Grammar β} {step : σ → String × β → Option σ}
    (gives : Gives member value step) :
    ∀ {fuel : Nat} {first : Bool} {st st' : σ} {s r : List Char},
      membersFrom member fuel first st s = .ok (st', r) →
        ∃ ms, ms.foldlM step st = some st' ∧ Remaining '}' (Grammar.member value) first s ms r
  | 0, first, st, st', s, r, read => by
      simp only [membersFrom] at read
      cases read
  | fuel + 1, first, st, st', s, r, read => by
      simp only [membersFrom] at read
      split at read
      · cases read
      · next closed =>
        cases read
        obtain ⟨ws, blank, rfl⟩ := nextKey_eq_closed closed
        exact ⟨[], rfl, .closed blank⟩
      · next more =>
        obtain ⟨lead, ws, leads, blank, rfl⟩ := nextKey_eq_more more
        split at read
        · cases read
        · next key _ keyed =>
          obtain ⟨body, spelled, rfl⟩ := spelled_of_textBody keyed
          split at read
          · cases read
          · next taken =>
            obtain ⟨b, ws₁, ws₂, t, stepped, holds, blank₁, blank₂, rfl⟩ := gives taken
            obtain ⟨ms, folded, others⟩ := remaining_of_membersFrom gives read
            have isMember : Grammar.member value _ (key, b) :=
              ⟨'"' :: (body ++ ['"']), ws₁, ws₂, t, ⟨body, spelled, rfl⟩, blank₁, blank₂, holds,
                rfl⟩
            refine ⟨(key, b) :: ms, ?_, ?_⟩
            · rw [List.foldlM_cons, stepped]
              exact folded
            · simpa using Remaining.cons leads blank isMember others

/-- What stands for an object, and what becomes of the state by its members. -/
theorem object_of_membersFrom {σ β : Type} {member : σ → String → Reader σ}
    {value : String → Grammar β} {step : σ → String × β → Option σ}
    (gives : Gives member value step) {fuel : Nat} {st st' : σ} {s r : List Char}
    (read : membersFrom member fuel true st s = .ok (st', r)) :
    ∃ ms t, ms.foldlM step st = some st' ∧ Grammar.object value t ms ∧ '{' :: s = t ++ r := by
  obtain ⟨ms, folded, remaining⟩ := remaining_of_membersFrom gives read
  obtain ⟨t, enclosed, same⟩ := remaining.enclosed '{'
  exact ⟨ms, t, folded, enclosed, same⟩

theorem accepts_object {σ β : Type} {member : σ → String → Reader σ} {value : String → Grammar β}
    {step : σ → String × β → Option σ} (gives : Gives member value step) (start : σ) :
    Accepts (object start member) (Grammar.folded value step start) := by
  intro s st r read
  unfold object at read
  split at read
  · cases read
  · next skipped =>
    obtain ⟨ws, blank, rfl, -⟩ := skipSpace_eq_cons skipped
    split at read
    · next isBrace =>
      obtain ⟨ms, t, folded, holds, same⟩ := object_of_membersFrom gives read
      exact ⟨ws, t, blank, ⟨ms, holds, folded⟩, by rw [isBrace, same]⟩
    · cases read

theorem colon_eq_ok {s r : List Char} (read : colon s = .ok r) :
    ∃ ws, Blank ws ∧ s = ws ++ ':' :: r := by
  unfold colon at read
  split at read
  · cases read
  · next skipped =>
    obtain ⟨ws, blank, rfl, -⟩ := skipSpace_eq_cons skipped
    split at read
    · next isColon =>
      cases read
      exact ⟨ws, blank, by rw [isColon]⟩
    · cases read

/-- A colon and a value behind it. -/
theorem valued_eq_ok {α : Type} {reader : Reader α} {g : Grammar α} (base : Accepts reader g)
    {s r : List Char} {a : α} (read : valued reader s = .ok (a, r)) :
    ∃ ws ws' t, Blank ws ∧ Blank ws' ∧ g t a ∧ s = ws ++ ':' :: (ws' ++ (t ++ r)) := by
  unfold valued at read
  split at read
  · cases read
  · next coloned =>
    obtain ⟨ws, blank, rfl⟩ := colon_eq_ok coloned
    obtain ⟨ws', t, blank', holds, rfl⟩ := base read
    exact ⟨ws, ws', t, blank, blank', holds, rfl⟩

/-! ## Documents -/

/-- A reader gets every text of the grammar, and takes no other. -/
structure Exact {α : Type} (reader : Reader α) (grammar : Grammar α) : Prop where
  reads : Reads reader grammar
  accepts : Accepts reader grammar

theorem Exact.map {α β : Type} {reader : Reader α} {g : Grammar α} (base : Exact reader g)
    (f : α → β) {converted : Reader β}
    (same : ∀ s, converted s = (reader s).map fun p => (f p.1, p.2)) :
    Exact converted (g.map f) :=
  ⟨base.reads.map f same, base.accepts.map f same⟩

theorem exact_boolean : Exact boolean Grammar.boolean :=
  ⟨reads_boolean, accepts_boolean⟩

theorem exact_text : Exact text Grammar.text :=
  ⟨reads_text, accepts_text⟩

theorem exact_list {α : Type} {item : Reader α} {g : Grammar α} (base : Exact item g) :
    Exact (list item) (Grammar.list g) :=
  ⟨reads_list base.reads, accepts_list base.accepts⟩

/-- A document is read exactly when it is a text of the grammar in white space. -/
theorem document_eq_ok_iff {α : Type} {reader : Reader α} {g : Grammar α} (exact : Exact reader g)
    {source : String} {a : α} :
    document reader source = .ok a ↔
      ∃ ws t ws', Blank ws ∧ Blank ws' ∧ g t a ∧ source.toList = ws ++ (t ++ ws') := by
  unfold document
  constructor
  · intro read
    split at read
    · cases read
    · next taken =>
      split at read
      · next ended =>
        cases read
        obtain ⟨ws, t, blank, holds, same⟩ := exact.accepts taken
        exact ⟨ws, t, _, blank, blank_of_skipSpace ended, holds, same⟩
      · cases read
  · rintro ⟨ws, t, ws', blank, blank', holds, same⟩
    have ends : Ends ws' := by
      have all := ends_append blank' ends_nil
      rwa [List.append_nil] at all
    rw [same, exact.reads.reads blank holds ends]
    simp only [skipSpace_all blank']

end ThemeEditor.Json
