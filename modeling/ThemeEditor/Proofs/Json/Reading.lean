/-
# ThemeEditor.Proofs.Json.Reading -- the readers read their grammars

Each reader returns the value of every text of its grammar and stops behind it:
texts (`reads_text`), the two words for booleans (`reads_boolean`), lists of
anything that can be read (`reads_list`), and objects, whose members act on a
state one after the other (`membersFrom_items`, `reads_object`).

The fuel of a reader is the number of characters it has.  It suffices because
every spelling, every item and every member takes at least one of them.
-/
import ThemeEditor.Proofs.Json.Grammar

namespace ThemeEditor.Json

set_option autoImplicit false

/-! ## Texts -/

theorem shortEscape?_u : shortEscape? 'u' = none := rfl

/-- Reading a spelling gives its character. -/
theorem piece_spelling {p : List Char} {c : Char} (spelling : Spelling p c) (r : List Char) :
    piece (p ++ r) = .ok (some c, r) := by
  cases spelling with
  | plain notQuote notEscape printed => simp [piece, notQuote, notEscape, printed]
  | @short d _ known =>
      have notU : d ≠ 'u' := by
        rintro rfl
        simp [shortEscape?_u] at known
      simp [piece, escape, notU, known]
  | unit code notLead notTrail =>
      simp [piece, escape, hexCode, code, unitChar, notLead, notTrail]
  | pair leadCode trailCode lead trail =>
      have notTrail : isTrail _ = false := not_isTrail_of_isLead lead
      simp [piece, escape, hexCode, leadCode, trailCode, unitChar, lead, trail, notTrail,
        trailAfter]
where
  not_isTrail_of_isLead {n : Nat} (lead : isLead n = true) : isTrail n = false := by
    simp only [isLead, isTrail, Bool.and_eq_true, decide_eq_true_eq] at lead ⊢
    simp only [Bool.and_eq_false_iff, decide_eq_false_iff_not]
    omega

theorem Spelling.length_pos {p : List Char} {c : Char} (spelling : Spelling p c) :
    0 < p.length := by
  cases spelling <;> simp

theorem Spelled.length_le {s cs : List Char} (spelled : Spelled s cs) : cs.length ≤ s.length := by
  induction spelled with
  | nil => exact Nat.le_refl 0
  | cons first _ ih =>
      have := first.length_pos
      simp only [List.length_cons, List.length_append]
      omega

theorem textFrom_spelled {s cs : List Char} (spelled : Spelled s cs) (r : List Char) :
    ∀ fuel, cs.length < fuel → textFrom fuel (s ++ '"' :: r) = .ok (cs, r) := by
  induction spelled with
  | nil =>
      intro fuel enough
      obtain ⟨n, rfl⟩ := Nat.exists_eq_succ_of_ne_zero (Nat.ne_zero_of_lt enough)
      simp [textFrom, piece]
  | cons first _ ih =>
      intro fuel enough
      obtain ⟨n, rfl⟩ := Nat.exists_eq_succ_of_ne_zero (Nat.ne_zero_of_lt enough)
      rw [List.length_cons] at enough
      rw [List.append_assoc, textFrom, piece_spelling first]
      simp only [ih n (by omega)]

/-- A spelled text and its closing quotation mark are read to their end. -/
theorem textBody_spelled {s cs : List Char} (spelled : Spelled s cs) (r : List Char) :
    textBody (s ++ '"' :: r) = .ok (String.ofList cs, r) := by
  have enough : cs.length < (s ++ '"' :: r).length + 1 := by
    have := spelled.length_le
    simp only [List.length_append]
    omega
  rw [textBody, textFrom_spelled spelled r _ enough]

theorem reads_text : Reads text Grammar.text where
  starts := by
    rintro _ s ⟨body, -, rfl⟩
    exact ⟨'"', _, rfl, rfl, by decide⟩
  reads := by
    rintro ws _ rest s blank ⟨body, spelled, rfl⟩ -
    rw [text, List.cons_append, skipSpace_to blank rfl]
    simp [textBody_spelled spelled rest]

theorem reads_boolean : Reads boolean Grammar.boolean where
  starts := by
    rintro _ b rfl
    cases b
    · exact ⟨'f', _, rfl, rfl, by decide⟩
    · exact ⟨'t', _, rfl, rfl, by decide⟩
  reads := by
    rintro ws _ rest b blank rfl -
    cases b
    · rw [boolean, if_neg (by decide), List.cons_append, skipSpace_to blank rfl]
      rfl
    · rw [boolean, if_pos rfl, List.cons_append, skipSpace_to blank rfl]
      rfl

/-- A reader that converts what another one read. -/
theorem Reads.map {α β : Type} {reader : Reader α} {g : Grammar α} (base : Reads reader g)
    (f : α → β) {converted : Reader β}
    (same : ∀ s, converted s = (reader s).map fun p => (f p.1, p.2)) :
    Reads converted (g.map f) where
  starts := by
    rintro t _ ⟨a, holds, rfl⟩
    exact base.starts holds
  reads := by
    rintro ws t rest _ blank ⟨a, holds, rfl⟩ ends
    rw [same, base.reads blank holds ends]
    rfl

/-! ## Items and members -/

/-- What stands before an item: nothing before the first one, and white space with
a comma before the others. -/
inductive Lead : Bool → List Char → Prop where
  | first : Lead true []
  | comma {ws : List Char} (blank : Blank ws) : Lead false (ws ++ [','])

theorem nextItem_lead {first : Bool} {lead ws : List Char} {c : Char} (leads : Lead first lead)
    (blank : Blank ws) (notSpace : isSpace c = false) (notEnd : c ≠ ']') (s : List Char) :
    nextItem first (lead ++ (ws ++ c :: s)) = .ok (.more (c :: s)) := by
  cases leads with
  | first => simp [nextItem, skipSpace_to blank notSpace, notEnd]
  | comma blank' =>
      rw [List.append_assoc, List.singleton_append, nextItem, skipSpace_to blank' rfl]
      simp [skipSpace_to blank notSpace, notEnd]

theorem nextItem_closed {ws : List Char} (blank : Blank ws) (first : Bool) (r : List Char) :
    nextItem first (ws ++ ']' :: r) = .ok (.closed r) := by
  simp [nextItem, skipSpace_to blank (c := ']') rfl]

theorem nextKey_lead {first : Bool} {lead ws : List Char} (leads : Lead first lead)
    (blank : Blank ws) (s : List Char) :
    nextKey first (lead ++ (ws ++ '"' :: s)) = .ok (.more s) := by
  cases leads with
  | first => simp [nextKey, skipSpace_to blank (c := '"') rfl]
  | comma blank' =>
      rw [List.append_assoc, List.singleton_append, nextKey, skipSpace_to blank' rfl]
      simp [skipSpace_to blank (c := '"') rfl]

theorem nextKey_closed {ws : List Char} (blank : Blank ws) (first : Bool) (r : List Char) :
    nextKey first (ws ++ '}' :: r) = .ok (.closed r) := by
  simp [nextKey, skipSpace_to blank (c := '}') rfl]

theorem Items.length_le {α : Type} {item : Grammar α} {s : List Char} {as : List α}
    (items : Items item s as) (nonempty : ∀ {t a}, item t a → 0 < t.length) :
    as.length ≤ s.length := by
  induction items with
  | single _ holds _ =>
      have := nonempty holds
      simp only [List.length_append, List.length_singleton]
      omega
  | cons _ holds _ _ ih =>
      have := nonempty holds
      simp only [List.length_append, List.length_cons]
      omega

/-! ## Lists -/

theorem itemsFrom_items {α : Type} {item : Reader α} {g : Grammar α} (base : Reads item g)
    {s : List Char} {as : List α} (items : Items g s as) (r : List Char) :
    ∀ fuel first lead, Lead first lead → as.length < fuel →
      itemsFrom item fuel first (lead ++ (s ++ ']' :: r)) = .ok (as, r) := by
  induction items with
  | @single ws t ws' a before holds after =>
      intro fuel first lead leads enough
      obtain ⟨n, rfl⟩ : ∃ n, fuel = n + 2 := ⟨fuel - 2, by simp at enough; omega⟩
      obtain ⟨c, u, rfl, notSpace, notEnd⟩ := base.starts holds
      have read := base.reads blank_nil holds (ends_append after (ends_bracket r))
      simp only [List.nil_append, List.cons_append] at read
      simp only [List.append_assoc, List.cons_append]
      rw [itemsFrom, nextItem_lead leads before notSpace notEnd]
      simp only [read, itemsFrom, nextItem_closed after]
  | @cons ws t ws' s a as before holds after _ ih =>
      intro fuel first lead leads enough
      obtain ⟨n, rfl⟩ := Nat.exists_eq_succ_of_ne_zero (Nat.ne_zero_of_lt enough)
      obtain ⟨c, u, rfl, notSpace, notEnd⟩ := base.starts holds
      have read := base.reads blank_nil holds (ends_append after (ends_comma (s ++ ']' :: r)))
      have others := ih n false (ws' ++ [',']) (.comma after) (by simpa using enough)
      simp only [List.nil_append, List.cons_append, List.append_assoc] at read others
      simp only [List.append_assoc, List.cons_append]
      rw [itemsFrom, nextItem_lead leads before notSpace notEnd]
      simp only [read, others]

theorem Reads.length_pos {α : Type} {reader : Reader α} {g : Grammar α} (base : Reads reader g)
    {t : List Char} {a : α} (holds : g t a) : 0 < t.length := by
  obtain ⟨c, u, rfl, -⟩ := base.starts holds
  simp

theorem Enclosed.starts {α : Type} {left right : Char} {item : Grammar α} {t : List Char}
    {as : List α} (enclosed : Enclosed left right item t as) : ∃ u, t = left :: u := by
  cases enclosed
  · exact ⟨_, rfl⟩
  · exact ⟨_, rfl⟩

/-- A list is read if its items are. -/
theorem reads_list {α : Type} {item : Reader α} {g : Grammar α} (base : Reads item g) :
    Reads (list item) (Grammar.list g) where
  starts := by
    intro t as enclosed
    obtain ⟨u, rfl⟩ := enclosed.starts
    exact ⟨'[', u, rfl, rfl, by decide⟩
  reads := by
    intro ws t rest as blank enclosed _
    cases enclosed with
    | empty inside =>
        rw [list, List.cons_append, skipSpace_to blank rfl]
        simp [itemsFrom, nextItem_closed inside]
    | @items s _ items =>
        have enough : as.length < (s ++ ']' :: rest).length + 1 := by
          have := items.length_le base.length_pos
          simp only [List.length_append]
          omega
        have read := itemsFrom_items base items rest _ true [] .first enough
        rw [list, List.cons_append, skipSpace_to blank rfl]
        simpa using read

/-! ## Objects -/

/-- Behind a key, `member` reads the colon and any value of the key's grammar, and
leaves the state that `step` makes of the member. -/
def Takes {σ β : Type} (member : σ → String → Reader σ) (value : String → Grammar β)
    (step : σ → String × β → Option σ) : Prop :=
  ∀ ⦃st key b st' ws ws' t r⦄, step st (key, b) = some st' → value key t b → Blank ws → Blank ws' →
    Ends r → member st key (ws ++ ':' :: (ws' ++ (t ++ r))) = .ok (st', r)

theorem Grammar.length_member {β : Type} {value : String → Grammar β} {t : List Char}
    {m : String × β} (holds : Grammar.member value t m) : 0 < t.length := by
  obtain ⟨_, _, _, _, ⟨body, -, rfl⟩, -, -, -, rfl⟩ := holds
  simp

section Object

variable {σ β : Type} {member : σ → String → Reader σ} {value : String → Grammar β}
  {step : σ → String × β → Option σ} (takes : Takes member value step)

include takes

/-- One member behind its opening quotation mark, up to what follows it. -/
theorem membersFrom_member {first : Bool} {lead ws t r : List Char} {m : String × β} {st st' : σ}
    (leads : Lead first lead) (before : Blank ws) (holds : Grammar.member value t m) (ends : Ends r)
    (stepped : step st m = some st') (fuel : Nat) :
    membersFrom member (fuel + 1) first st (lead ++ (ws ++ (t ++ r))) =
      membersFrom member fuel false st' r := by
  obtain ⟨_, ws₁, ws₂, v, ⟨body, spelled, rfl⟩, blank₁, blank₂, valued, rfl⟩ := holds
  have taken := takes stepped valued blank₁ blank₂ ends
  simp only [List.append_assoc, List.cons_append, List.nil_append]
  rw [membersFrom, nextKey_lead leads before]
  simp only [textBody_spelled spelled, String.ofList_toList, taken]

theorem membersFrom_items {s : List Char} {ms : List (String × β)}
    (items : Items (Grammar.member value) s ms) (r : List Char) :
    ∀ fuel first lead st st', Lead first lead → ms.length < fuel → ms.foldlM step st = some st' →
      membersFrom member fuel first st (lead ++ (s ++ '}' :: r)) = .ok (st', r) := by
  induction items with
  | @single ws t ws' m before holds after =>
      intro fuel first lead st st' leads enough stepped
      obtain ⟨n, rfl⟩ : ∃ n, fuel = n + 2 := ⟨fuel - 2, by simp at enough; omega⟩
      rw [List.foldlM_cons] at stepped
      obtain ⟨mid, once, same⟩ := Option.bind_eq_some_iff.1 stepped
      cases same
      rw [List.append_assoc, List.append_assoc,
        membersFrom_member takes leads before holds (ends_append after (ends_brace r)) once]
      simp only [membersFrom, nextKey_closed after]
  | @cons ws t ws' s m ms before holds after _ ih =>
      intro fuel first lead st st' leads enough stepped
      obtain ⟨n, rfl⟩ := Nat.exists_eq_succ_of_ne_zero (Nat.ne_zero_of_lt enough)
      rw [List.foldlM_cons] at stepped
      obtain ⟨mid, once, others⟩ := Option.bind_eq_some_iff.1 stepped
      have ends := ends_append after (ends_comma (s ++ '}' :: r))
      have read := ih n false (ws' ++ [',']) mid st' (.comma after) (by simpa using enough) others
      simp only [List.append_assoc, List.cons_append, List.nil_append] at read ⊢
      rw [membersFrom_member takes leads before holds ends once, read]

/-- An object is read if its members can be taken one after the other. -/
theorem membersFrom_object {t : List Char} {ms : List (String × β)}
    (holds : Grammar.object value t ms) {st st' : σ} (stepped : ms.foldlM step st = some st')
    (rest : List Char) :
    ∃ u, t ++ rest = '{' :: u ∧ membersFrom member (u.length + 1) true st u = .ok (st', rest) := by
  cases holds with
  | @empty ws inside =>
      cases stepped
      refine ⟨ws ++ '}' :: rest, by simp, ?_⟩
      simp [membersFrom, nextKey_closed inside]
  | @items s _ items =>
      refine ⟨s ++ '}' :: rest, by simp, ?_⟩
      have enough : ms.length < (s ++ '}' :: rest).length + 1 := by
        have := items.length_le Grammar.length_member
        simp only [List.length_append]
        omega
      simpa using membersFrom_items takes items rest _ true [] st st' .first enough stepped

end Object

/-- The object that `start` becomes, member by member. -/
def Grammar.folded {σ β : Type} (value : String → Grammar β) (step : σ → String × β → Option σ)
    (start : σ) : Grammar σ := fun t st =>
  ∃ ms, Grammar.object value t ms ∧ ms.foldlM step start = some st

theorem reads_object {σ β : Type} {member : σ → String → Reader σ} {value : String → Grammar β}
    {step : σ → String × β → Option σ} (takes : Takes member value step) (start : σ) :
    Reads (object start member) (Grammar.folded value step start) where
  starts := by
    rintro t st ⟨ms, holds, -⟩
    obtain ⟨u, rfl⟩ := holds.starts
    exact ⟨'{', u, rfl, rfl, by decide⟩
  reads := by
    rintro ws t rest st blank ⟨ms, holds, stepped⟩ -
    obtain ⟨u, same, read⟩ := membersFrom_object takes holds stepped rest
    rw [same, object, skipSpace_to blank rfl]
    simpa using read

/-! ## Documents -/

/-- A text of the grammar, with nothing around it, is read as a document. -/
theorem document_eq {α : Type} {reader : Reader α} {g : Grammar α} (base : Reads reader g)
    {t : List Char} {a : α} (holds : g t a) : document reader (String.ofList t) = .ok a := by
  have read : reader t = .ok (a, []) := by
    simpa using base.reads blank_nil holds ends_nil
  rw [document, String.toList_ofList, read]
  simp [skipSpace_all blank_nil]

end ThemeEditor.Json
