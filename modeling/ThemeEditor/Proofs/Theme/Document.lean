/-
# ThemeEditor.Proofs.Theme.Document -- which bodies are theme files

A theme file and each of its entries are records with one field that has to be
there.  `Json.Sole` says which characters stand for such a record, whatever its field
is called and holds: an object with the field exactly once among any other members,
or a list of nothing but its value.  A layout of one demanded field reads these texts
and no others (`Json.exact_sole`), so the two levels of a theme file are the same
lemma applied twice, and `Batch.document` is all that is accepted
(`Batch.decode_iff_isFile`).

Any other body is a failure to the call that asked for it, and the palettes that are
kept stay as they are (`Batch.accepted_or_refused`).
-/
import ThemeEditor.Proofs.Settings.Document
import ThemeEditor.Proofs.Theme.Alone

namespace ThemeEditor

set_option autoImplicit false

/-! ## Records with one field -/

namespace Json

variable {α β σ : Type}

/-- The characters of a record whose only field has to be there, by its value. -/
inductive Sole (name : String) (g : Grammar α) : Grammar α where
  /-- Members in any order, the field exactly once among them.  Behind any other key
  stands any value at all. -/
  | object {t : List Char} {ms : List (String × Option α)} {a : α}
      (holds : Grammar.object (FieldTexts.Held [(name, g)]) t ms)
      (once : known ms = [(name, a)]) : Sole name g t a
  /-- The value of the field alone in a list. -/
  | list {t : List Char} {a : α} (holds : Grammar.list g t [a]) : Sole name g t a

/-- Items of one grammar are items of another that has their texts. -/
theorem Items.map {item : Grammar α} {item' : Grammar β} (f : α → β)
    (each : ∀ t a, item t a → item' t (f a)) {t : List Char} {as : List α}
    (items : Items item t as) : Items item' t (as.map f) := by
  induction items with
  | single before holds after => exact .single before (each _ _ holds) after
  | cons before holds after _ ih => exact .cons before (each _ _ holds) after ih

theorem Enclosed.map {left right : Char} {item : Grammar α} {item' : Grammar β} (f : α → β)
    (each : ∀ t a, item t a → item' t (f a)) {t : List Char} {as : List α}
    (enclosed : Enclosed left right item t as) : Enclosed left right item' t (as.map f) := by
  cases enclosed with
  | empty blank => exact .empty blank
  | items holds => exact .items (Items.map f each holds)

theorem Items.exists_text {item : Grammar α} {s : List Char} {as : List α}
    (items : Items item s as) : ∀ a ∈ as, ∃ t, item t a := by
  induction items with
  | single _ holds _ =>
      intro a member
      obtain rfl := List.mem_singleton.mp member
      exact ⟨_, holds⟩
  | cons _ holds _ _ ih =>
      intro a member
      obtain rfl | later := List.mem_cons.mp member
      · exact ⟨_, holds⟩
      · exact ih a later

/-- The texts of the values of the only field. -/
theorem value_sole {name key : String} {g : Grammar α} {t : List Char} {a : α} :
    FieldTexts.value [(name, g)] key t a ↔ key = name ∧ g t a := by
  by_cases same : key = name
  · simp [FieldTexts.value, same]
  · have other : (key == name) = false := beq_eq_false_iff_ne.mpr same
    simp [FieldTexts.value, List.lookup_cons, same, other]

/-- Only the field is known. -/
theorem key_of_known {name : String} {g : Grammar α} {t : List Char}
    {ms : List (String × Option α)} (holds : Grammar.object (FieldTexts.Held [(name, g)]) t ms) :
    ∀ v ∈ known ms, v.1 = name := by
  intro v member
  obtain ⟨⟨key, held⟩, listed, shown⟩ := List.mem_filterMap.mp member
  cases holds with
  | empty => cases listed
  | items items =>
      obtain ⟨_, _, _, _, _, -, -, -, behind, -⟩ := items.exists_text _ listed
      cases behind with
      | known value =>
          obtain rfl := Option.some.inj shown
          exact (value_sole.mp value).1
      | unknown => cases shown

/-- Values of one name, none of it twice, are one value. -/
theorem eq_singleton_of_keys {name : String} : ∀ {vs : List (String × α)},
    (∀ v ∈ vs, v.1 = name) → (vs.map (·.1)).Nodup → name ∈ vs.map (·.1) →
    ∃ a, vs = [(name, a)]
  | [], _, _, present => nomatch present
  | [(key, a)], keys, _, _ => ⟨a, by rw [← keys _ (.head _)]⟩
  | v :: v' :: _, keys, distinct, _ => by
      have same : v.1 = v'.1 :=
        (keys v (.head _)).trans (keys v' (.tail _ (.head _))).symm
      exact absurd (by simp [same]) (List.nodup_cons.mp distinct).1

/-- The record of a layout with one demanded field is that field alone. -/
theorem given_sole {layout : Layout σ} {field : Field σ} {name : String} {g : Grammar α}
    (fields : layout.fields = [field]) (named : field.name = name)
    (inObject : field.inObject = true) (inList : field.inList = true)
    {t : List Char} {vs : List (String × α)} :
    Given layout [(name, g)] t vs ↔ ∃ a, Sole name g t a ∧ vs = [(name, a)] := by
  constructor
  · intro given
    cases given with
    | object holds distinct complete =>
        have present := named ▸ complete field (by simp [fields]) inObject
        obtain ⟨a, once⟩ := eq_singleton_of_keys (key_of_known holds) distinct present
        exact ⟨a, .object holds once, once⟩
    | list holds inOrder complete =>
        match vs, inOrder with
        | [], _ =>
            -- the field is still to come
            have demanded := complete field (by simp [fields])
            cases inList.symm.trans demanded
        | [(key, a)], inOrder =>
            obtain rfl : key = name := by simpa using inOrder
            have value : ∀ t v, FieldTexts.item [(key, g)] t v → g t v.2 :=
              fun _ _ value => (value_sole.mp value).2
            have values : Grammar.list g t [a] := Enclosed.map Prod.snd value holds
            exact ⟨a, .list values, rfl⟩
        | _ :: _ :: _, inOrder => exact absurd inOrder.length_le (by simp)
  · rintro ⟨a, sole, rfl⟩
    cases sole with
    | object holds once =>
        rw [← once]
        refine .object holds (by simp [once]) fun other member _ => ?_
        obtain rfl : other = field := by simpa [fields] using member
        simp [once, named]
    | list holds =>
        have item : ∀ t a, g t a → FieldTexts.item [(name, g)] t (name, a) :=
          fun _ _ value => value_sole.mpr ⟨rfl, value⟩
        exact .list (Enclosed.map (name, ·) item holds) List.prefix_rfl (by simp [fields])

/-- A layout of one demanded field reads exactly the records of that field. -/
theorem exact_sole {reader : Reader α} {g : Grammar α} (base : Exact reader g) {layout : Layout σ}
    {name : String} {store : α → σ → σ} (fields : layout.fields = [.of name reader store true true])
    (start : σ) :
    Exact (layout.read start) ((Sole name g).map fun a => store a start) := by
  have exact : List.Forall₂ (Field.Exact fun _ => store) layout.fields [(name, g)] := by
    rw [fields]
    exact .cons ⟨rfl, Field.exact_read base name store true true⟩ .nil
  have same : Grammar.layout layout [(name, g)] (fun _ => store) start =
      (Sole name g).map fun a => store a start := by
    funext t record
    apply propext
    constructor
    · rintro ⟨vs, given, rfl⟩
      obtain ⟨a, sole, rfl⟩ := (given_sole fields rfl rfl rfl).mp given
      exact ⟨a, sole, rfl⟩
    · rintro ⟨a, sole, rfl⟩
      exact ⟨[(name, a)], (given_sole fields rfl rfl rfl).mpr ⟨a, sole, rfl⟩, rfl⟩
  rw [← same]
  exact exact_layout exact (by simp) start

end Json

/-! ## Theme files -/

namespace Batch

open Json (Blank Exact Grammar Sole)

/-- The characters of a theme file, by its palettes: a record of its results, each of
them a record of its palette. -/
def document : Grammar Batch :=
  (Sole "results" (Grammar.list (Sole "palette" (Grammar.list Color.grammar)))).map Batch.mk

theorem exact_entryLayout :
    Exact (entryLayout.read []) (Sole "palette" (Grammar.list Color.grammar)) := by
  have exact : Exact (entryLayout.read []) _ :=
    Json.exact_sole (Json.exact_list Color.exact_reader) rfl []
  rwa [Json.Grammar.map_id] at exact

theorem exact_layout : Exact (layout.read ⟨[]⟩) document := by
  have exact : Exact (layout.read ⟨[]⟩) _ :=
    Json.exact_sole (Json.exact_list exact_entryLayout) rfl (⟨[]⟩ : Batch)
  exact exact

/-- The text is a theme file of the batch with white space around it. -/
def IsFile (source : String) (b : Batch) : Prop :=
  ∃ ws t ws', Blank ws ∧ Blank ws' ∧ document t b ∧ source.toList = ws ++ (t ++ ws')

theorem decode_iff_isFile (source : String) (b : Batch) :
    decode source = .ok b ↔ IsFile source b :=
  Json.document_eq_ok_iff exact_layout

/-- A call whose answer is a failure returns it, and whatever others did while it waited
stays. -/
theorem finish_error (mode : Mode) (index : UInt8) (e : FetchError) (s : Supply) :
    Stage.finish mode (.error e) (.waiting index) s =
      (.done (.error e), { s with fetcher := s.fetcher.setLoading mode false }) :=
  rfl

/-- A call alone that finds no palette and is answered by a failure returns it. -/
theorem fetch_error {ask : Mode → UInt8 → Answer} {mode : Mode} {s : Supply} {e : FetchError}
    (empty : s.cache.get mode = [])
    (failed : (ask mode s.fetcher.nextIndex).reply = .error e) :
    (s.fetch ask mode).outcome = .error e := by
  simp only [Supply.fetch, Supply.start_eq, empty, failed, finish_error]

/-- **Theme files are accepted and no other body is.**  A body is read as a batch exactly
when it is, within white space, a record of its results, each of them a record of its
palette: an object with that key exactly once among any other members, or a list of the
one value.  A call that is answered by any other body returns that it could not be read,
whether it is alone or others go on while it waits, and the palettes that are kept for
either mode stay as it found them. -/
theorem accepted_or_refused (body : String) :
    (∀ b, decode body = .ok b ↔ IsFile body b) ∧
    ((∀ b, ¬ IsFile body b) → ∀ url, ∃ reason, ∀ mode s,
      (∀ ask, s.cache.get mode = [] →
        (ask mode s.fetcher.nextIndex).reply = Reply.ofBody url body →
        (s.fetch ask mode).outcome = .error (.decode url reason) ∧
        (s.fetch ask mode).supply.cache = s.cache) ∧
      ∀ index, let (stage, after) := Stage.finish mode (Reply.ofBody url body) (.waiting index) s
        stage = .done (.error (.decode url reason)) ∧ after.cache = s.cache) := by
  refine ⟨decode_iff_isFile body, fun other url => ?_⟩
  obtain ⟨refusal, refused⟩ : ∃ r, decode body = .error r := by
    cases read : decode body with
    | ok b => exact absurd ((decode_iff_isFile body b).mp read) (other b)
    | error r => exact ⟨r, rfl⟩
  have reply : Reply.ofBody url body = .error (.decode url refusal.message) := by
    rw [Reply.ofBody, refused]
  rw [reply]
  refine ⟨refusal.message, fun mode s => ⟨fun ask empty answered => ?_, fun index => ⟨rfl, rfl⟩⟩⟩
  have failed := fetch_error empty answered
  exact ⟨failed, by rw [Supply.fetch_of_error failed]⟩

/-- A body without results. -/
def withoutResults : String := "\x7b\"items\": []\x7d"

/-- It reaches the call for light palettes as a failure, and the dark palette that is kept
stays. -/
theorem accepted_or_refused_withoutResults :
    let s : Supply := ⟨⟨[], [[⟨"#fff"⟩]]⟩, .new, ⟨fun _ => 0, 0⟩⟩
    let ask : Mode → UInt8 → Answer := fun _ _ => ⟨Reply.ofBody "u" withoutResults, []⟩
    (∃ reason, (s.fetch ask .light).outcome = .error (.decode "u" reason)) ∧
      (s.fetch ask .light).supply.cache = s.cache := by
  intro s ask
  have unread : decode withoutResults = .error ⟨.missingField "results", 1, 13⟩ := by decide +kernel
  obtain ⟨accepted, refused⟩ := accepted_or_refused withoutResults
  have noFile : ∀ b, ¬ IsFile withoutResults b := fun b isFile => by
    cases unread.symm.trans ((accepted b).mpr isFile)
  obtain ⟨reason, fails⟩ := refused noFile "u"
  have empty : s.cache.get .light = [] := rfl
  obtain ⟨failed, kept⟩ := (fails .light s).1 ask empty (by dsimp only [ask])
  exact ⟨⟨reason, failed⟩, kept⟩

end Batch

end ThemeEditor
