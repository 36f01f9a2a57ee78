/-
# ThemeEditor.Proofs.RoundTrip -- what is written is read back

Settings and batches are written and read through one grammar each.  The grammar
of settings describes eleven fields; a written record lists all of them, so
reading it leaves nothing of the built-in settings.  Flags are written in
ascending order of their names, and inserting them in that order builds the same
flags.

Style plays no part: `Settings.decode_write` holds for every style that adds only
white space, and `decode_written` is its case for the two that are used.
-/
import ThemeEditor.Proofs.Json.Record
import ThemeEditor.Proofs.Json.Writing
import ThemeEditor.Proofs.Settings.Names
import ThemeEditor.Theme.Batch

namespace ThemeEditor

set_option autoImplicit false

open ThemeEditor.Json (Described Field Grammar Layout Reads Style Takes Value Writes WritesMember)

/-! ## Colors -/

namespace Color

/-- The texts of a color. -/
def grammar : Grammar Color :=
  Grammar.text.map Color.mk

theorem reads_reader : Reads reader grammar :=
  Json.reads_text.map Color.mk fun s => by
    unfold reader
    cases Json.text s <;> rfl

theorem writes_toValue {style : Style} (c : Color) : Writes style grammar c.toValue c :=
  (Json.writes_text c.text).map Color.mk

theorem writes_list {style : Style} (spaced : style.Spaced) (cs : List Color) :
    Writes style (Grammar.list grammar) (.list (cs.map toValue)) cs := by
  refine Json.writes_list spaced ?_
  rw [List.forall₂_map_left_iff]
  exact List.forall₂_same.2 fun c _ => writes_toValue c

end Color

/-! ## Flags -/

namespace Flags

/-- One flag after the other. -/
def take (flags : Flags) (m : String × Bool) : Option Flags :=
  some (flags.insert m.1 m.2)

/-- The texts of flags; of flags with one name the last one counts. -/
def grammar : Grammar Flags :=
  Grammar.folded (fun _ => Grammar.boolean) take .empty

theorem takes_memberReader : Takes memberReader (fun _ => Grammar.boolean) take := by
  rintro flags name on _ ws ws' t r ⟨⟩ holds blank blank' ends
  simp only [memberReader, Json.valued_colon Json.reads_boolean blank blank' holds ends]

theorem reads_reader : Reads reader grammar :=
  Json.reads_object takes_memberReader .empty

theorem insertEntry_last {name : String} {on : Bool} : ∀ {entries : List (String × Bool)},
    (∀ e ∈ entries, e.1 < name) → insertEntry name on entries = entries ++ [(name, on)]
  | [], _ => rfl
  | e :: rest, below => by
      have lt : e.1 < name := below e List.mem_cons_self
      have notLt : ¬ name < e.1 := String.lt_asymm lt
      have ne : name ≠ e.1 := fun same => String.lt_irrefl _ (same ▸ lt)
      have others : insertEntry name on rest = rest ++ [(name, on)] :=
        insertEntry_last fun d member => below d (List.mem_cons_of_mem e member)
      simp only [insertEntry, notLt, ne, if_false, others, List.cons_append]

/-- Flags that lie above all others, taken in ascending order, go behind them. -/
theorem foldlM_take : ∀ (added : List (String × Bool)) (flags : Flags)
    (ordered : (flags.entries ++ added).Pairwise fun a b => a.1 < b.1),
    added.foldlM take flags = some ⟨flags.entries ++ added, ordered⟩
  | [], flags, _ => by
      simp only [List.append_nil]
      rfl
  | e :: added, flags, ordered => by
      have below : ∀ d ∈ flags.entries, d.1 < e.1 := fun d member =>
        (List.pairwise_append.1 ordered).2.2 d member e List.mem_cons_self
      have inserted : (flags.insert e.1 e.2).entries = flags.entries ++ [e] :=
        insertEntry_last below
      have rest := foldlM_take added (flags.insert e.1 e.2)
        (by simpa [inserted] using ordered)
      rw [List.foldlM_cons]
      simpa [take, inserted] using rest

theorem writes_toValue {style : Style} (spaced : style.Spaced) (flags : Flags) :
    Writes style grammar flags.toValue flags := by
  intro depth
  refine ⟨flags.entries, ?_, foldlM_take flags.entries .empty flags.ordered⟩
  refine Json.writes_object spaced ?_ depth
  rw [List.forall₂_map_left_iff]
  exact List.forall₂_same.2 fun e _ => ⟨rfl, Json.writes_boolean e.2⟩

end Flags

/-! ## Settings -/

namespace Settings

/-- The eleven fields of the document, with what each value changes. -/
def described : Described Settings :=
  ColorRole.all.map (fun role => (role.key, Color.grammar.map fun c s => s.setColor role c)) ++
    [("accentColors", (Grammar.list Color.grammar).map fun cs s => { s with accents := cs }),
     ("featureFlags", Flags.grammar.map fun fs s => { s with flags := fs }),
     ("backendUrl", Grammar.text.map fun t s => { s with backendUrl := t })]

theorem layout_described : List.Forall₂ Field.Reads layout.fields described := by
  rw [layout_fields]
  refine List.rel_append ?_ ?_
  · rw [List.forall₂_map_left_iff, List.forall₂_map_right_iff]
    exact List.forall₂_same.2 fun role _ => Field.reads_of Color.reads_reader _ _ _ _
  · exact .cons (Field.reads_of (Json.reads_list Color.reads_reader) _ _ _ _)
      (.cons (Field.reads_of Flags.reads_reader _ _ _ _)
        (.cons (Field.reads_of Json.reads_text _ _ _ _) .nil))

/-- The texts of settings as an object. -/
def grammar : Grammar Settings :=
  Grammar.record layout described .default

/-- The members of a written document, with what each of them changes. -/
def writtenMembers (s : Settings) : List (String × (Settings → Settings)) :=
  ColorRole.all.map (fun role => (role.key, fun t => t.setColor role (s.color role))) ++
    [("accentColors", fun t => { t with accents := s.accents }),
     ("featureFlags", fun t => { t with flags := s.flags }),
     ("backendUrl", fun t => { t with backendUrl := s.backendUrl })]

/-- The written members leave nothing of the record they are put into. -/
theorem foldl_writtenMembers (s start : Settings) :
    s.writtenMembers.foldl (fun t m => m.2 t) start = s := by
  simp [writtenMembers, ColorRole.all, setColor, color]

theorem lookup_key (role : ColorRole) :
    described.lookup role.key = some (Color.grammar.map fun c s => s.setColor role c) := by
  cases role <;> rfl

theorem writes_members {style : Style} (spaced : style.Spaced) (s : Settings) :
    List.Forall₂ (WritesMember style described.value)
      (ColorRole.all.map (fun role => (role.key, (s.color role).toValue)) ++ s.otherMembers)
      s.writtenMembers := by
  refine List.rel_append ?_ ?_
  · rw [List.forall₂_map_left_iff, List.forall₂_map_right_iff]
    refine List.forall₂_same.2 fun role _ => ⟨rfl, fun depth => ⟨_, lookup_key role, ?_⟩⟩
    exact ⟨_, Color.writes_toValue _ depth, rfl⟩
  · refine .cons ⟨rfl, fun depth => ⟨_, rfl, ?_⟩⟩ (.cons ⟨rfl, fun depth => ⟨_, rfl, ?_⟩⟩
      (.cons ⟨rfl, fun depth => ⟨_, rfl, ?_⟩⟩ .nil))
    · exact ⟨_, Color.writes_list spaced s.accents depth, rfl⟩
    · exact ⟨_, Flags.writes_toValue spaced s.flags depth, rfl⟩
    · exact ⟨_, Json.writes_text s.backendUrl depth, rfl⟩

/-- No field of settings has to occur. -/
theorem inObject_layout : ∀ field ∈ layout.fields, field.inObject = false := by
  decide

/-- Written settings stand for themselves, in every style. -/
theorem writes_toValue {style : Style} (spaced : style.Spaced) (s : Settings) :
    Writes style grammar s.toValue s := by
  intro depth
  rw [toValue_eq]
  refine ⟨s.writtenMembers, Json.writes_object spaced (writes_members spaced s) depth, ?_, ?_,
    foldl_writtenMembers s .default⟩
  · have keys : s.writtenMembers.map (·.1) =
        ColorRole.all.map ColorRole.key ++ ["accentColors", "featureFlags", "backendUrl"] := rfl
    rw [keys]
    decide
  · intro field member demanded
    rw [inObject_layout field member] at demanded
    cases demanded

theorem decode_write {style : Style} (spaced : style.Spaced) (s : Settings) :
    decode (String.ofList (s.toValue.write style 0)) = .ok s :=
  Json.document_eq (Json.reads_record layout_described .default) (writes_toValue spaced s 0)

end Settings

/-! ## Batches -/

namespace Batch

/-- The texts of an entry, by its palette. -/
def entryDescribed : Described Palette :=
  [("palette", (Grammar.list Color.grammar).map fun colors _ => colors)]

theorem entryLayout_described : List.Forall₂ Field.Reads entryLayout.fields entryDescribed :=
  .cons (Field.reads_of (Json.reads_list Color.reads_reader) _ _ _ _) .nil

def entryGrammar : Grammar Palette :=
  Grammar.record entryLayout entryDescribed []

theorem writes_entry {style : Style} (spaced : style.Spaced) (p : Palette) :
    Writes style entryGrammar (.object [("palette", .list (p.map Color.toValue))]) p := by
  intro depth
  refine ⟨[("palette", fun _ => p)], Json.writes_object spaced ?_ depth, ?_, ?_, rfl⟩
  · exact .cons ⟨rfl, fun depth => ⟨_, rfl, _, Color.writes_list spaced p depth, rfl⟩⟩ .nil
  · simp
  · simp [entryLayout, Field.of]

/-- The texts of a theme file, by its entries. -/
def described : Described Batch :=
  [("results", (Grammar.list entryGrammar).map fun ps _ => ⟨ps⟩)]

theorem layout_described : List.Forall₂ Field.Reads layout.fields described :=
  .cons (Field.reads_of
    (Json.reads_list (Json.reads_record entryLayout_described [])) _ _ _ _) .nil

def grammar : Grammar Batch :=
  Grammar.record layout described ⟨[]⟩

theorem writes_toValue {style : Style} (spaced : style.Spaced) (b : Batch) :
    Writes style grammar b.toValue b := by
  have entries : Writes style (Grammar.list entryGrammar)
      (.list (b.palettes.map fun p => .object [("palette", .list (p.map Color.toValue))]))
      b.palettes := by
    refine Json.writes_list spaced ?_
    rw [List.forall₂_map_left_iff]
    exact List.forall₂_same.2 fun p _ => writes_entry spaced p
  intro depth
  refine ⟨[("results", fun _ => b)], Json.writes_object spaced ?_ depth, ?_, ?_, rfl⟩
  · exact .cons ⟨rfl, fun depth => ⟨_, rfl, _, entries depth, rfl⟩⟩ .nil
  · simp
  · simp [layout, Field.of]

theorem decode_write {style : Style} (spaced : style.Spaced) (b : Batch) :
    decode (String.ofList (b.toValue.write style 0)) = .ok b :=
  Json.document_eq (Json.reads_record layout_described ⟨[]⟩) (writes_toValue spaced b 0)

end Batch

/-- **Decoding undoes encoding.**  Settings come back from their compact and from
their indented document, and batches from theirs, whatever characters their texts
hold. -/
theorem decode_written :
    (∀ s : Settings, Settings.decode s.encode = .ok s ∧
      Settings.decode s.encodeIndented = .ok s) ∧
    (∀ b : Batch, Batch.decode b.encode = .ok b) :=
  ⟨fun s => ⟨Settings.decode_write Style.spaced_compact s,
      Settings.decode_write Style.spaced_indented s⟩,
    fun b => Batch.decode_write Style.spaced_compact b⟩

end ThemeEditor
