/-
# ThemeEditor.Proofs.Settings.Listing -- the flags as a document lists them

Reading settings keeps of the flags what they say, and not how they are listed.  How
they are listed is the members of one object, in their order and with every name that
comes again (`ListsFlags`).  A reader that collects what a document gives, key by key,
finds these members (`listedFlags_eq_ok_iff`), so a text lists its flags in one way.

Settings are read with the flags that are listed, set one after the other
(`flags_of_decode`), and a written document lists every flag of the settings once, in
their order (`listsFlags_encode_iff`).
-/
import ThemeEditor.Proofs.Settings.Document

namespace ThemeEditor

set_option autoImplicit false

open ThemeEditor.Json (Blank Exact Grammar Style known)

/-! ## Reading members -/

namespace Flags

/-- Reads one flag behind those that were read. -/
def collect (ms : List (String × Bool)) (name : String) : Json.Reader (List (String × Bool)) :=
  fun s =>
    match Json.valued Json.boolean s with
    | .error f => .error f
    | .ok (on, r) => .ok (ms ++ [(name, on)], r)

/-- Reads the flags of an object as they are listed. -/
def listReader : Json.Reader (List (String × Bool)) :=
  Json.object [] collect

theorem exact_listReader : Exact listReader (Grammar.object fun _ => Grammar.boolean) := by
  have collects : ∀ ms name s, collect ms name s =
      (Json.valued Json.boolean s).map fun v => (ms ++ [(name, v.1)], v.2) := by
    intro ms name s
    unfold collect
    cases Json.valued Json.boolean s <;> rfl
  have all : ∀ ms : List (String × Bool), ms.foldl (fun ms m => ms ++ [m]) [] = ms :=
    fun ms => List.flatMap_eq_foldl.symm.trans (List.flatMap_singleton' ms)
  have exact : Exact listReader _ :=
    Json.exact_members Json.exact_boolean (fun ms m => ms ++ [m]) collects []
  simpa only [all, Grammar.map_id] using exact

end Flags

namespace Settings

/-! ## Reading entries -/

/-- An entry behind the others. -/
def append (key : String) (e : Entry) (entries : List (String × Entry)) : List (String × Entry) :=
  entries ++ [(key, e)]

theorem putAll_append (added entries : List (String × Entry)) :
    Json.putAll append entries added = entries ++ added := by
  induction added generalizing entries with
  | nil => exact (List.append_nil entries).symm
  | cons e added ih => exact (ih (entries ++ [e])).trans (List.append_assoc _ _ _)

/-- A field of the document whose value is collected. -/
def collected {α : Type} (key : String) (reader : Json.Reader α) (wrap : α → Entry) :
    Json.Field (List (String × Entry)) :=
  .of key reader (fun a => append key (wrap a)) false false

theorem exact_collected {α : Type} {reader : Json.Reader α} {g : Grammar α}
    (base : Exact reader g) (key : String) (wrap : α → Entry) :
    Json.Field.Exact append (collected key reader wrap) (key, g.map wrap) :=
  Json.Field.exact_of base wrap (fun _ _ => rfl) false false

/-- The fields of the document, read for what it gives to them. -/
def outline : Json.Layout (List (String × Entry)) where
  title := layout.title
  fields := ColorRole.all.map (fun role => collected role.key Color.reader .color) ++
    [collected "accentColors" (Json.list Color.reader) .colors,
     collected "featureFlags" Flags.listReader .flags,
     collected "backendUrl" Json.text .text]

theorem exact_outline : List.Forall₂ (Json.Field.Exact append) outline.fields fieldTexts := by
  have keys : fieldTexts =
      ColorRole.all.map (fun role => (role.key, Color.grammar.map .color)) ++
        [("accentColors", (Grammar.list Color.grammar).map .colors),
         ("featureFlags", (Grammar.object fun _ => Grammar.boolean).map .flags),
         ("backendUrl", Grammar.text.map .text)] := rfl
  rw [keys]
  refine List.rel_append ?_ (.cons ?_ (.cons ?_ (.cons ?_ .nil)))
  · rw [List.forall₂_map_left_iff, List.forall₂_map_right_iff]
    exact List.forall₂_same.2 fun role _ => exact_collected Color.exact_reader role.key .color
  · exact exact_collected (Json.exact_list Color.exact_reader) _ _
  · exact exact_collected Flags.exact_listReader _ _
  · exact exact_collected Json.exact_text _ _

theorem optional_outline :
    ∀ field ∈ outline.fields, field.inObject = false ∧ field.inList = false := by
  decide

/-- What a document gives to its keys, in its order. -/
def entries (source : String) : Except Json.Refusal (List (String × Entry)) :=
  Json.document (outline.read []) source

theorem entries_eq_ok_iff {source : String} {es : List (String × Entry)} :
    entries source = .ok es ↔ ∃ ws t ws', Blank ws ∧ Blank ws' ∧ Document t es ∧
      source.toList = ws ++ (t ++ ws') := by
  have exact := Json.exact_layout exact_outline nodup_fieldTexts []
  have texts : Grammar.layout outline fieldTexts append [] = Document := by
    funext t es
    apply propext
    constructor
    · rintro ⟨es', given, collected⟩
      rw [putAll_append, List.nil_append] at collected
      exact collected ▸ (given_iff_of_optional optional_outline).1 given
    · intro document
      exact ⟨es, (given_iff_of_optional optional_outline).2 document, putAll_append es []⟩
  rw [texts] at exact
  exact Json.document_eq_ok_iff exact

/-! ## The flags of a document -/

/-- The flags that entries list. -/
def flagMembers (es : List (String × Entry)) : List (String × Bool) :=
  match es.lookup "featureFlags" with
  | some (.flags ms) => ms
  | _ => []

/-- A text is a document that lists these flags, in this order and as often. -/
def ListsFlags (source : String) (ms : List (String × Bool)) : Prop :=
  ∃ ws t ws' es, Blank ws ∧ Blank ws' ∧ Document t es ∧ source.toList = ws ++ (t ++ ws') ∧
    flagMembers es = ms

/-- The flags that a text lists. -/
def listedFlags (source : String) : Except Json.Refusal (List (String × Bool)) :=
  (entries source).map flagMembers

theorem listedFlags_eq_ok_iff {source : String} {ms : List (String × Bool)} :
    listedFlags source = .ok ms ↔ ListsFlags source ms := by
  unfold listedFlags ListsFlags
  constructor
  · intro listed
    cases read : entries source with
    | error e => rw [read] at listed; cases listed
    | ok es =>
        rw [read] at listed
        obtain ⟨ws, t, ws', blank, blank', document, same⟩ := entries_eq_ok_iff.1 read
        exact ⟨ws, t, ws', es, blank, blank', document, same, Except.ok.inj listed⟩
  · rintro ⟨ws, t, ws', es, blank, blank', document, same, rfl⟩
    rw [entries_eq_ok_iff.2 ⟨ws, t, ws', blank, blank', document, same⟩]
    rfl

/-- The settings that a document overrides to have the flags that it lists, set one after the
other. -/
theorem flags_of_overrides {es : List (String × Entry)} {s : Settings}
    (overrides : Overrides es s) : s.flags = .assigned (flagMembers es) := by
  refine Flags.ext_get? fun name => ?_
  rw [overrides.flags, Flags.get?_assigned, flagMembers]
  cases es.lookup "featureFlags" with
  | none => rfl
  | some e => cases e <;> rfl

/-- What is read has the flags that the text lists, set one after the other. -/
theorem flags_of_decode {source : String} {s : Settings} (read : decode source = .ok s) :
    ∃ ms, listedFlags source = .ok ms ∧ s.flags = .assigned ms := by
  have exact := Json.exact_layout exact_fields nodup_fieldTexts default
  obtain ⟨ws, t, ws', blank, blank', ⟨es, given, rfl⟩, same⟩ :=
    (Json.document_eq_ok_iff exact).1 read
  have document := given_iff.1 given
  have listed : ListsFlags source (flagMembers es) :=
    ⟨ws, t, ws', es, blank, blank', document, same, rfl⟩
  exact ⟨flagMembers es, listedFlags_eq_ok_iff.2 listed,
    flags_of_overrides (overrides_putAll document.nodup)⟩

/-- A text that lists flags is read. -/
theorem exists_decode {source : String} {ms : List (String × Bool)}
    (listed : listedFlags source = .ok ms) : ∃ s, decode source = .ok s := by
  have exact := Json.exact_layout exact_fields nodup_fieldTexts default
  obtain ⟨ws, t, ws', es, blank, blank', document, same, -⟩ := listedFlags_eq_ok_iff.1 listed
  exact ⟨_, (Json.document_eq_ok_iff exact).2
    ⟨ws, t, ws', blank, blank', ⟨es, given_iff.2 document, rfl⟩, same⟩⟩

/-! ## Written documents -/

/-- What a written document gives to its keys. -/
def writtenEntries (s : Settings) : List (String × Entry) :=
  ColorRole.all.map (fun role => (role.key, .color (s.color role))) ++
    [("accentColors", .colors s.accents), ("featureFlags", .flags s.flags.entries),
     ("backendUrl", .text s.backendUrl)]

theorem lookup_fieldTexts (role : ColorRole) :
    fieldTexts.lookup role.key = some (Color.grammar.map .color) := by
  cases role <;> rfl

/-- Settings are written as a document that gives every key its value. -/
theorem document_write {style : Style} (spaced : style.Spaced) (s : Settings) (depth : Nat) :
    Document (s.toValue.write style depth) s.writtenEntries := by
  have all : s.writtenEntries = known (s.writtenEntries.map fun e => (e.1, some e.2)) := by
    rw [known, List.filterMap_map]
    exact List.filterMap_some.symm
  have keys : s.writtenEntries.map (·.1) = fieldTexts.map (·.1) := rfl
  rw [all, toValue_eq]
  refine .object (Json.writes_object spaced ?_ depth) ?_
  · rw [List.forall₂_map_right_iff]
    refine List.rel_append ?_ (.cons ⟨rfl, fun depth => ?_⟩ (.cons ⟨rfl, fun depth => ?_⟩
      (.cons ⟨rfl, fun depth => ?_⟩ .nil)))
    · rw [List.forall₂_map_left_iff, List.forall₂_map_right_iff]
      refine List.forall₂_same.2 fun role _ => ⟨rfl, fun depth => ?_⟩
      exact .known ⟨_, lookup_fieldTexts role, _, Color.writes_toValue _ depth, rfl⟩
    · exact .known ⟨_, rfl, _, Color.writes_list spaced s.accents depth, rfl⟩
    · refine .known ⟨_, rfl, _, Json.writes_object spaced ?_ depth, rfl⟩
      rw [List.forall₂_map_left_iff]
      exact List.forall₂_same.2 fun e _ => ⟨rfl, Json.writes_boolean e.2⟩
    · exact .known ⟨_, rfl, _, Json.writes_text s.backendUrl depth, rfl⟩
  · rw [← all, keys]
    exact nodup_fieldTexts

/-- Written settings list each of their flags once and in their order, in every style. -/
theorem listsFlags_write_iff {style : Style} (spaced : style.Spaced) (s : Settings)
    {ms : List (String × Bool)} :
    ListsFlags (String.ofList (s.toValue.write style 0)) ms ↔ ms = s.flags.entries := by
  have written : ListsFlags (String.ofList (s.toValue.write style 0)) s.flags.entries := by
    refine ⟨[], _, [], _, Json.blank_nil, Json.blank_nil, document_write spaced s 0, ?_, rfl⟩
    rw [String.toList_ofList, List.nil_append, List.append_nil]
  constructor
  · intro listed
    rw [← listedFlags_eq_ok_iff] at listed written
    exact Except.ok.inj (listed.symm.trans written)
  · rintro rfl
    exact written

end Settings

end ThemeEditor
