/-
# ThemeEditor.Proofs.Json.Fields -- every text of a record

A record is written in two forms (`Given`).  As an object it lists members in any
order: no field comes twice, a field has a value of its own grammar, and what has
no field holds anything that can be passed over.  As a list it holds the values of
its first fields, in declaration order.  Either form gives the values of some
fields; put into the record one after the other they make what is read.

A layout whose fields are exact reads these texts and no others (`exact_layout`).
-/
import ThemeEditor.Proofs.Json.Passing
import ThemeEditor.Proofs.Json.Record

namespace ThemeEditor.Json

set_option autoImplicit false

variable {σ π : Type}

/-- By name, in declaration order, the texts of the values of fields. -/
abbrev FieldTexts (π : Type) := List (String × Grammar π)

namespace FieldTexts

/-- The texts of the values of the field with a name. -/
def value (fields : FieldTexts π) (name : String) : Grammar π := fun t p =>
  ∃ g, fields.lookup name = some g ∧ g t p

/-- The texts of what stands behind a key: a value of the field with that name or, where
there is none, anything. -/
inductive Held (fields : FieldTexts π) (name : String) : Grammar (Option π) where
  | known {t : List Char} {p : π} (holds : fields.value name t p) : Held fields name t (some p)
  | unknown {t : List Char} (noField : fields.lookup name = none) (passed : Passed .value t) :
      Held fields name t none

/-- The texts of a value at its place in a list. -/
def item (fields : FieldTexts π) : Grammar (String × π) := fun t v =>
  fields.value v.1 t v.2

end FieldTexts

/-- The members that are fields, in the order in which they occur. -/
def known (ms : List (String × Option π)) : List (String × π) :=
  ms.filterMap fun m => m.2.map fun p => (m.1, p)

/-- The texts of a record, by the values that they give to fields. -/
inductive Given (layout : Layout σ) (fields : FieldTexts π) : Grammar (List (String × π)) where
  | object {t : List Char} {ms : List (String × Option π)}
      (holds : Grammar.object fields.Held t ms) (distinct : ((known ms).map (·.1)).Nodup)
      (complete : ∀ field ∈ layout.fields, field.inObject = true →
        field.name ∈ (known ms).map (·.1)) : Given layout fields t (known ms)
  | list {t : List Char} {vs : List (String × π)} (holds : Grammar.list fields.item t vs)
      (inOrder : vs.map (·.1) <+: fields.map (·.1))
      (complete : ∀ field ∈ layout.fields.drop vs.length, field.inList = false) :
      Given layout fields t vs

/-! ## Fields -/

theorem Grammar.map_id {α : Type} (g : Grammar α) : (g.map fun a => a) = g := by
  funext t a
  exact propext ⟨fun ⟨_, holds, same⟩ => same ▸ holds, fun holds => ⟨a, holds, rfl⟩⟩

theorem Grammar.map_map {α β γ : Type} (g : Grammar α) (f : α → β) (h : β → γ) :
    (g.map f).map h = g.map fun a => h (f a) := by
  funext t c
  apply propext
  constructor
  · rintro ⟨_, ⟨a, holds, rfl⟩, rfl⟩
    exact ⟨a, holds, rfl⟩
  · rintro ⟨a, holds, rfl⟩
    exact ⟨f a, ⟨a, holds, rfl⟩, rfl⟩

/-- The field reads its texts and no others, and puts their values into the record. -/
structure Field.Exact (put : String → π → σ → σ) (field : Field σ)
    (texts : String × Grammar π) : Prop where
  name : field.name = texts.1
  read : ∀ record, Json.Exact (field.read record) (texts.2.map fun p => put texts.1 p record)

/-- A field reads what its reader does, and puts it where it belongs. -/
theorem Field.exact_read {α : Type} {reader : Reader α} {g : Grammar α}
    (base : Json.Exact reader g) (name : String) (store : α → σ → σ) (inObject inList : Bool)
    (record : σ) :
    Json.Exact ((Field.of name reader store inObject inList).read record)
      (g.map fun a => store a record) := by
  refine base.map (fun a => store a record) fun s => ?_
  unfold Field.of
  dsimp only
  cases reader s <;> rfl

theorem Field.exact_of {α : Type} {put : String → π → σ → σ} {reader : Reader α} {g : Grammar α}
    (base : Json.Exact reader g) {name : String} {store : α → σ → σ} (wrap : α → π)
    (same : ∀ a record, put name (wrap a) record = store a record) (inObject inList : Bool) :
    Field.Exact put (Field.of name reader store inObject inList) (name, g.map wrap) where
  name := rfl
  read record := by
    rw [Grammar.map_map]
    simpa only [same] using Field.exact_read base name store inObject inList record

/-- A name is that of a field exactly when there are texts for it. -/
theorem field?_rel {put : String → π → σ → σ} {layout : Layout σ} {fields : FieldTexts π}
    (exact : List.Forall₂ (Field.Exact put) layout.fields fields) (name : String) :
    Option.Rel (fun field g => Field.Exact put field (name, g)) (layout.field? name)
      (fields.lookup name) := by
  unfold Layout.field?
  generalize layout.fields = declared at exact
  induction exact with
  | nil => exact .none
  | @cons field texts _ _ first _ ih =>
      rw [List.find?_cons, List.lookup_cons]
      by_cases same : name = texts.1
      · have found : decide (field.name = name) = true := by simp [first.name, same]
        have found' : (name == texts.1) = true := by simp [same]
        rw [found, found']
        rw [same]
        exact .some first
      · have other : decide (field.name = name) = false := by
          simpa [first.name] using fun h => same h.symm
        have other' : (name == texts.1) = false := by simpa using same
        rw [other, other']
        exact ih

/-! ## Members -/

/-- What a member does to the fields met before and to the record. -/
def pass (put : String → π → σ → σ) (st : List String × σ) (m : String × Option π) :
    Option (List String × σ) :=
  match m.2 with
  | none => some st
  | some p => if m.1 ∈ st.1 then none else some (m.1 :: st.1, put m.1 p st.2)

/-- Values put into a record one after the other. -/
def putAll (put : String → π → σ → σ) (record : σ) (vs : List (String × π)) : σ :=
  vs.foldl (fun record v => put v.1 v.2 record) record

/-- What is seen of a record after values of different fields were put into it, if a value
shows under one name only. -/
theorem view_putAll {β : Type} {put : String → π → σ → σ} (view : σ → β) {name : String}
    (hold : π → β → β)
    (one : ∀ other p record, view (put other p record) =
      if other = name then hold p (view record) else view record) :
    ∀ {vs : List (String × π)}, (vs.map (·.1)).Nodup → ∀ record,
      view (putAll put record vs) =
        match vs.lookup name with
        | some p => hold p (view record)
        | none => view record
  | [], _, record => rfl
  | v :: vs, distinct, record => by
      rw [List.map_cons, List.nodup_cons] at distinct
      have rest := view_putAll view hold one distinct.2 (put v.1 v.2 record)
      have first : putAll put record (v :: vs) = putAll put (put v.1 v.2 record) vs := rfl
      rw [first, rest, one, List.lookup_cons]
      by_cases same : v.1 = name
      · -- no later value shows under this name
        have absent : vs.lookup name = none := by
          rw [List.lookup_eq_none_iff]
          intro other member
          rw [bne_iff_ne]
          rintro rfl
          exact distinct.1 (same ▸ List.mem_map_of_mem member)
        simp [absent, same]
      · have other : (name == v.1) = false := by
          rw [beq_eq_false_iff_ne]
          exact fun h => same h.symm
        simp [other, same]

section Members

variable {put : String → π → σ → σ} {layout : Layout σ} {fields : FieldTexts π}
  (exact : List.Forall₂ (Field.Exact put) layout.fields fields)

include exact

theorem takes_held : Takes layout.member fields.Held (pass put) := by
  intro st key v st' ws ws' t r stepped held blank blank' ends
  have related := field?_rel exact key
  cases held with
  | unknown noField passed =>
      cases stepped
      rw [noField] at related
      have noField' : layout.field? key = none := by
        cases found : layout.field? key with
        | none => rfl
        | some field =>
            rw [found] at related
            cases related
      have skipped := skipValue_passed blank' passed ends
      simp only [Layout.member, noField', colon_blank blank, skipped]
  | @known _ p holds =>
      obtain ⟨g, found, holds⟩ := holds
      rw [found] at related
      by_cases met : key ∈ st.1
      · simp [pass, met] at stepped
      · simp only [pass, met, if_false, Option.some.injEq] at stepped
        cases isField : layout.field? key with
        | none =>
            rw [isField] at related
            cases related
        | some field =>
            rw [isField] at related
            cases related with
            | some reads =>
                have value := valued_colon (reads.read st.2).reads blank blank' ⟨p, holds, rfl⟩ ends
                simp only [Layout.member, isField, met, if_false, value, stepped]

theorem gives_held : Gives layout.member fields.Held (pass put) := by
  intro st key st' s r read
  have related := field?_rel exact key
  unfold Layout.member at read
  split at read
  · next noField =>
    rw [noField] at related
    split at read
    · cases read
    · next coloned =>
      split at read
      · cases read
      · next skipped =>
        cases read
        obtain ⟨ws, blank, rfl⟩ := colon_eq_ok coloned
        obtain ⟨ws', t, blank', passed, rfl⟩ := passed_of_skipValue skipped
        have noTexts : fields.lookup key = none := by
          generalize fields.lookup key = found at related
          cases related
          rfl
        exact ⟨none, ws, ws', t, rfl, .unknown noTexts passed, blank, blank', rfl⟩
  · next field isField =>
    rw [isField] at related
    split at read
    · cases read
    · next fresh =>
      split at read
      · cases read
      · next taken =>
        cases read
        cases texts : fields.lookup key with
        | none =>
            rw [texts] at related
            cases related
        | some g =>
            rw [texts] at related
            cases related with
            | some reads =>
                obtain ⟨ws, ws', t, blank, blank', ⟨p, holds, rfl⟩, rfl⟩ :=
                  valued_eq_ok (reads.read st.2).accepts taken
                refine ⟨some p, ws, ws', t, ?_, .known ⟨g, texts, holds⟩, blank, blank', rfl⟩
                simp only [pass, fresh, if_false]

end Members

theorem forall_fresh_cons {name : String} {names : List String} {vs : List (String × π)} :
    (∀ v ∈ vs, v.1 ∉ name :: names) ↔ name ∉ vs.map (·.1) ∧ ∀ v ∈ vs, v.1 ∉ names := by
  simp only [List.mem_cons, not_or, List.mem_map, not_exists, not_and]
  constructor
  · intro fresh
    exact ⟨fun v member same => (fresh v member).1 same, fun v member => (fresh v member).2⟩
  · rintro ⟨other, fresh⟩ v member
    exact ⟨other v member, fresh v member⟩

/-- Members are all taken exactly when no field is met twice. -/
theorem foldlM_pass (put : String → π → σ → σ) : ∀ (ms : List (String × Option π))
    (names : List String) (record : σ) (st : List String × σ),
    ms.foldlM (pass put) (names, record) = some st ↔
      ((known ms).map (·.1)).Nodup ∧ (∀ v ∈ known ms, v.1 ∉ names) ∧
        st = (((known ms).map (·.1)).reverse ++ names, putAll put record (known ms))
  | [], names, record, st => by simp [known, putAll, eq_comm]
  | (name, none) :: ms, names, record, st => by
      have rest := foldlM_pass put ms names record st
      rw [List.foldlM_cons]
      simpa [pass, known] using rest
  | (name, some p) :: ms, names, record, st => by
      have rest := foldlM_pass put ms (name :: names) (put name p record) st
      have first : known ((name, some p) :: ms) = (name, p) :: known ms := rfl
      rw [List.foldlM_cons, first]
      by_cases met : name ∈ names
      · simp [pass, met]
      · -- the name counts as met for the members behind it
        simp only [pass, met, if_false, Option.bind_eq_bind, Option.bind_some]
        rw [rest, forall_fresh_cons]
        simp only [List.map_cons, List.nodup_cons, List.reverse_cons, List.append_assoc,
          List.singleton_append, putAll, List.foldl_cons, List.forall_mem_cons, met,
          not_false_eq_true, true_and]
        tauto

/-! ## Lists -/

/-- Every field is looked up by its own name. -/
theorem lookup_of_nodup : ∀ {fields : FieldTexts π}, (fields.map (·.1)).Nodup →
    ∀ texts ∈ fields, fields.lookup texts.1 = some texts.2
  | [], _, _, member => by cases member
  | first :: fields, distinct, texts, member => by
      rw [List.map_cons, List.nodup_cons] at distinct
      rw [List.lookup_cons]
      rcases List.mem_cons.1 member with rfl | member
      · simp
      · have other : (texts.1 == first.1) = false := by
          rw [beq_eq_false_iff_ne]
          rintro same
          exact distinct.1 (same ▸ List.mem_map_of_mem member)
        rw [other]
        exact lookup_of_nodup distinct.2 texts member

theorem closeList_blank {ws : List Char} (blank : Blank ws) (r : List Char) :
    closeList (ws ++ ']' :: r) = .ok r := by
  simp [closeList, skipSpace_to blank (c := ']') rfl]

theorem closeList_eq_ok {s r : List Char} (read : closeList s = .ok r) :
    ∃ ws, Blank ws ∧ s = ws ++ ']' :: r := by
  unfold closeList at read
  split at read
  · cases read
  · next skipped =>
    obtain ⟨ws, blank, rfl, -⟩ := skipSpace_eq_cons skipped
    split at read
    · next isEnd =>
      cases read
      exact ⟨ws, blank, by rw [isEnd]⟩
    · split at read
      · split at read <;> cases read
      · cases read

theorem lacking?_eq_none {ds : List (Field σ)} {count : Nat} :
    Layout.lacking? ds count = none ↔ ∀ field ∈ ds, field.inList = false := by
  simp [Layout.lacking?]

section Places

variable {put : String → π → σ → σ} (layout : Layout σ)

theorem placesFrom_closed {ws : List Char} (blank : Blank ws) {ds : List (Field σ)}
    (complete : ∀ field ∈ ds, field.inList = false) (count : Nat) (record : σ) (r : List Char) :
    Layout.placesFrom layout ds count record (ws ++ ']' :: r) = .ok (record, r) := by
  cases ds with
  | nil => simp only [Layout.placesFrom, closeList_blank blank]
  | cons d ds =>
      simp only [Layout.placesFrom, nextItem_closed blank, lacking?_eq_none.2 complete]

/-- One value at its place, up to what follows it. -/
theorem placesFrom_one {d : Field σ} {name : String} {g : Grammar π}
    (exact : Field.Exact put d (name, g)) {lead ws t r : List Char} {p : π} {count : Nat}
    (leads : Lead (count = 0) lead) (blank : Blank ws) (holds : g t p) (ends : Ends r)
    (ds : List (Field σ)) (record : σ) :
    Layout.placesFrom layout (d :: ds) count record (lead ++ (ws ++ (t ++ r))) =
      Layout.placesFrom layout ds (count + 1) (put name p record) r := by
  have reads := (exact.read record).reads
  have stands : (g.map fun p => put name p record) t (put name p record) := ⟨p, holds, rfl⟩
  have read := reads.reads blank_nil stands ends
  obtain ⟨c, u, rfl, notSpace, notEnd⟩ := reads.starts stands
  simp only [List.nil_append, List.cons_append] at read ⊢
  simp only [Layout.placesFrom, nextItem_lead leads blank notSpace notEnd, read]

variable {fields : FieldTexts π}

/-- The texts of the value at the first place are those of the first field. -/
theorem first_place {texts : String × Grammar π} {fs : FieldTexts π} {t : List Char}
    {v : String × π} {vs : List (String × π)} (own : fields.lookup texts.1 = some texts.2)
    (inOrder : (v :: vs).map (·.1) <+: (texts :: fs).map (·.1)) (holds : fields.item t v) :
    v.1 = texts.1 ∧ texts.2 t v.2 ∧ vs.map (·.1) <+: fs.map (·.1) := by
  obtain ⟨(same : v.1 = texts.1), others⟩ := List.cons_prefix_cons.1 inOrder
  obtain ⟨g, found, holds⟩ := holds
  rw [same, own] at found
  cases found
  exact ⟨same, holds, others⟩

/-- The first fields are read from their values, in order. -/
theorem placesFrom_items {s : List Char} {vs : List (String × π)} (items : Items fields.item s vs)
    (r : List Char) : ∀ {ds : List (Field σ)} {fs : FieldTexts π},
      List.Forall₂ (Field.Exact put) ds fs →
      (∀ texts ∈ fs, fields.lookup texts.1 = some texts.2) → vs.map (·.1) <+: fs.map (·.1) →
      (∀ field ∈ ds.drop vs.length, field.inList = false) →
      ∀ (count : Nat) {lead : List Char} (record : σ), Lead (count = 0) lead →
        Layout.placesFrom layout ds count record (lead ++ (s ++ ']' :: r)) =
          .ok (putAll put record vs, r) := by
  induction items with
  | @single ws t ws' v before holds after =>
      intro ds fs exact own inOrder complete count lead record leads
      cases exact with
      | nil => simp at inOrder
      | @cons d texts ds fs first _ =>
          obtain ⟨same, holds, -⟩ := first_place (own _ List.mem_cons_self) inOrder holds
          have one := placesFrom_one layout first leads before holds
            (ends_append after (ends_bracket r)) ds record
          have last := placesFrom_closed layout after complete (count + 1) (put v.1 v.2 record) r
          rw [← same] at one
          rw [List.append_assoc, List.append_assoc, one]
          exact last
  | @cons ws t ws' s v vs before holds after _ ih =>
      intro ds fs exact own inOrder complete count lead record leads
      cases exact with
      | nil => simp at inOrder
      | @cons d texts ds fs first others =>
          obtain ⟨same, holds, inOrder⟩ := first_place (own _ List.mem_cons_self) inOrder holds
          have one := placesFrom_one layout first leads before holds
            (ends_append after (ends_comma (s ++ ']' :: r))) ds record
          have more := ih others (fun texts member => own texts (List.mem_cons_of_mem _ member))
            inOrder complete (count + 1) (put v.1 v.2 record) (.comma after)
          rw [← same] at one
          simp only [List.append_assoc, List.cons_append, List.nil_append] at one more ⊢
          rw [one, more]
          rfl

/-- What is read from a list gives its values to the first fields, in order. -/
theorem remaining_of_placesFrom : ∀ {ds : List (Field σ)} {fs : FieldTexts π},
    List.Forall₂ (Field.Exact put) ds fs →
    (∀ texts ∈ fs, fields.lookup texts.1 = some texts.2) →
    ∀ {count : Nat} {record record' : σ} {s r : List Char},
      Layout.placesFrom layout ds count record s = .ok (record', r) →
        ∃ vs, Remaining ']' fields.item (count = 0) s vs r ∧ vs.map (·.1) <+: fs.map (·.1) ∧
          (∀ field ∈ ds.drop vs.length, field.inList = false) ∧ putAll put record vs = record'
  | [], _, _, _, count, record, record', s, r, read => by
      simp only [Layout.placesFrom] at read
      split at read
      · cases read
      · next ended =>
        cases read
        obtain ⟨ws, blank, rfl⟩ := closeList_eq_ok ended
        exact ⟨[], .closed blank, List.nil_prefix, by simp, rfl⟩
  | d :: ds, (name, g) :: fs, .cons first others, own, count, record, record', s, r, read => by
      simp only [Layout.placesFrom] at read
      split at read
      · cases read
      · next closed =>
        obtain ⟨ws, blank, rfl⟩ := nextItem_eq_closed closed
        split at read
        · cases read
        · next complete =>
          cases read
          exact ⟨[], .closed blank, List.nil_prefix, lacking?_eq_none.1 complete, rfl⟩
      · next more =>
        obtain ⟨lead, ws, leads, blank, rfl⟩ := nextItem_eq_more more
        split at read
        · cases read
        · next taken =>
          obtain ⟨ws', t, blank', ⟨p, holds, rfl⟩, rfl⟩ := (first.read record).accepts taken
          obtain ⟨vs, remaining, inOrder, complete, rfl⟩ := remaining_of_placesFrom others
            (fun texts member => own texts (List.mem_cons_of_mem _ member)) read
          have isItem : fields.item t (name, p) := ⟨g, own _ List.mem_cons_self, holds⟩
          have all := remaining.cons leads (blank_append blank blank') isItem
          rw [List.append_assoc] at all
          exact ⟨(name, p) :: vs, all, List.cons_prefix_cons.2 ⟨rfl, inOrder⟩, complete, rfl⟩

end Places

/-! ## Objects of values of one kind -/

/-- A reader that puts each member into what was read before reads the objects of such members and
no others. -/
theorem exact_members {α : Type} {reader : Reader α} {g : Grammar α} (base : Exact reader g)
    {member : σ → String → Reader σ} (put : σ → String × α → σ)
    (same : ∀ st name s, member st name s =
      (valued reader s).map fun v => (put st (name, v.1), v.2)) (start : σ) :
    Exact (object start member) ((Grammar.object fun _ => g).map fun ms => ms.foldl put start) := by
  have takes : Takes member (fun _ => g) fun st m => some (put st m) := by
    rintro st name a _ ws ws' t r ⟨⟩ holds blank blank' ends
    rw [same, valued_colon base.reads blank blank' holds ends]
    rfl
  have gives : Gives member (fun _ => g) fun st m => some (put st m) := by
    intro st name st' s r read
    rw [same] at read
    cases taken : valued reader s with
    | error f => rw [taken] at read; cases read
    | ok v =>
        rw [taken] at read
        cases read
        obtain ⟨ws, ws', t, blank, blank', holds, rfl⟩ := valued_eq_ok base.accepts taken
        exact ⟨v.1, ws, ws', t, rfl, holds, blank, blank', rfl⟩
  have folded : (Grammar.object fun _ => g).map (fun ms => ms.foldl put start) =
      Grammar.folded (fun _ => g) (fun st m => some (put st m)) start := by
    have all : ∀ ms : List (String × α),
        ms.foldlM (fun st m => some (put st m)) start = some (ms.foldl put start) :=
      fun ms => List.foldlM_pure
    funext t st
    simp only [Grammar.map, Grammar.folded, all, Option.some.injEq]
  rw [folded]
  exact ⟨reads_object takes start, accepts_object gives start⟩

/-! ## Records -/

/-- The texts of a record, by what the values that they give make of it. -/
def Grammar.layout (layout : Layout σ) (fields : FieldTexts π) (put : String → π → σ → σ)
    (start : σ) : Grammar σ :=
  (Given layout fields).map (putAll put start)

variable {put : String → π → σ → σ} {layout : Layout σ} {fields : FieldTexts π}

/-- A record is read whatever follows it, for a bracket closes it. -/
theorem layout_read (exact : List.Forall₂ (Field.Exact put) layout.fields fields)
    (distinct : (fields.map (·.1)).Nodup) {start record : σ} {ws t : List Char} (blank : Blank ws)
    (holds : Grammar.layout layout fields put start t record) (rest : List Char) :
    layout.read start (ws ++ (t ++ rest)) = .ok (record, rest) := by
  obtain ⟨vs, given, rfl⟩ := holds
  cases given with
  | @object _ ms holds distinct complete =>
      have taken : ms.foldlM (pass put) ([], start) =
          some (((known ms).map (·.1)).reverse ++ [], putAll put start (known ms)) :=
        (foldlM_pass put ms [] start _).2 ⟨distinct, by simp, rfl⟩
      obtain ⟨u, same, read⟩ := membersFrom_object (takes_held exact) holds taken rest
      have nothingMissing : layout.missing? (((known ms).map (·.1)).reverse ++ []) = none := by
        simpa [Layout.missing?] using complete
      rw [same, Layout.read, skipSpace_to blank rfl]
      simp only [Layout.fromMembers, read, nothingMissing]
      rfl
  | list holds inOrder complete =>
      have own := lookup_of_nodup distinct
      cases holds with
      | empty inside =>
          have read : Layout.placesFrom layout layout.fields 0 start (_ ++ ']' :: rest) =
              .ok (putAll put start [], rest) :=
            placesFrom_closed layout inside complete 0 start rest
          rw [List.cons_append, Layout.read, skipSpace_to blank rfl]
          simpa using read
      | items items =>
          have read := placesFrom_items layout items rest exact own inOrder complete
            0 start .first
          rw [List.cons_append, Layout.read, skipSpace_to blank rfl]
          simpa using read

theorem reads_layout (exact : List.Forall₂ (Field.Exact put) layout.fields fields)
    (distinct : (fields.map (·.1)).Nodup) (start : σ) :
    Reads (layout.read start) (Grammar.layout layout fields put start) where
  starts := by
    rintro t _ ⟨vs, given, -⟩
    cases given with
    | object holds _ _ =>
        obtain ⟨u, rfl⟩ := holds.starts
        exact ⟨'{', u, rfl, rfl, by decide⟩
    | list holds _ _ =>
        obtain ⟨u, rfl⟩ := holds.starts
        exact ⟨'[', u, rfl, rfl, by decide⟩
  reads blank holds _ := layout_read exact distinct blank holds _

theorem accepts_layout (exact : List.Forall₂ (Field.Exact put) layout.fields fields)
    (distinct : (fields.map (·.1)).Nodup) (start : σ) :
    Accepts (layout.read start) (Grammar.layout layout fields put start) := by
  intro s record r read
  unfold Layout.read at read
  split at read
  · cases read
  · next skipped =>
    obtain ⟨ws, blank, rfl, -⟩ := skipSpace_eq_cons skipped
    split at read
    · next isBracket =>
      obtain ⟨vs, remaining, inOrder, complete, rfl⟩ :=
        remaining_of_placesFrom layout exact (lookup_of_nodup distinct) read
      obtain ⟨t, enclosed, same⟩ := remaining.enclosed '['
      exact ⟨ws, t, blank, ⟨vs, .list enclosed inOrder complete, rfl⟩, by rw [isBracket, same]⟩
    · split at read
      · next isBrace =>
        unfold Layout.fromMembers at read
        split at read
        · cases read
        · next taken =>
          split at read
          · cases read
          · next nothingMissing =>
            cases read
            obtain ⟨ms, t, folded, holds, same⟩ := object_of_membersFrom (gives_held exact) taken
            obtain ⟨distinct, -, all⟩ := (foldlM_pass put ms [] start _).1 folded
            obtain ⟨rfl, rfl⟩ := Prod.mk.inj all
            have complete : ∀ field ∈ layout.fields, field.inObject = true →
                field.name ∈ (known ms).map (·.1) := by
              simpa [Layout.missing?] using nothingMissing
            exact ⟨ws, t, blank, ⟨known ms, .object holds distinct complete, rfl⟩,
              by rw [isBrace, same]⟩
      · cases read

/-- A layout with exact fields reads the texts of its record and no others. -/
theorem exact_layout (exact : List.Forall₂ (Field.Exact put) layout.fields fields)
    (distinct : (fields.map (·.1)).Nodup) (start : σ) :
    Exact (layout.read start) (Grammar.layout layout fields put start) :=
  ⟨reads_layout exact distinct start, accepts_layout exact distinct start⟩

end ThemeEditor.Json
