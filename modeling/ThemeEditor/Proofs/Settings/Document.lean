/-
# ThemeEditor.Proofs.Settings.Document -- the documents of settings

A document of settings overrides the built-in ones.  `fieldTexts` lists its eleven
keys with what may stand behind each of them, `Document` says which characters
give which values to which keys, and `Overrides` what the settings are then: the
given value of every key that is given, the built-in one of every other.

`decode_eq_ok_iff` is the whole of it: a text is read as settings exactly when it
is, but for white space around it, a document that overrides to them.

A bracket closes a document, so nothing but white space can follow it in another one
(`decode_append`), and no proper beginning of a written document is read
(`unread_beginning`).
-/
import ThemeEditor.Proofs.Json.Fields
import ThemeEditor.Proofs.RoundTrip
import ThemeEditor.Proofs.Settings.Flags

namespace ThemeEditor

set_option autoImplicit false

open ThemeEditor.Json (Blank Exact Field FieldTexts Grammar known putAll)

/-! ## Readers -/

namespace Color

theorem exact_reader : Exact reader grammar where
  reads := reads_reader
  accepts := Json.accepts_text.map Color.mk fun s => by
    unfold reader
    cases Json.text s <;> rfl

end Color

namespace Flags

/-- Flags are read from an object by setting its members one after the other. -/
theorem exact_reader : Exact reader ((Grammar.object fun _ => Grammar.boolean).map assigned) :=
  Json.exact_members Json.exact_boolean (fun (flags : Flags) m => flags.insert m.1 m.2)
    (fun flags name s => by unfold memberReader; cases Json.valued Json.boolean s <;> rfl) .empty

end Flags

namespace Settings

/-! ## Documents -/

/-- What a document gives to a key. -/
inductive Entry where
  | color (value : Color)
  | colors (values : List Color)
  /-- Flags as they are listed; a name may come again. -/
  | flags (members : List (String × Bool))
  | text (value : String)

namespace Entry

/-- The color of an entry that has one. -/
@[simp] def colorOr (c : Color) : Entry → Color
  | .color given => given
  | _ => c

/-- The accents of an entry that has them. -/
@[simp] def colorsOr (cs : List Color) : Entry → List Color
  | .colors given => given
  | _ => cs

/-- The value of a flag in an entry that has flags. -/
@[simp] def flagOr (name : String) (on : Option Bool) : Entry → Option Bool
  | .flags ms => ms.reverse.lookup name
  | _ => on

/-- The text of an entry that has one. -/
@[simp] def textOr (t : String) : Entry → String
  | .text given => given
  | _ => t

end Entry

/-- The keys of a document in order, with the texts that may stand behind them. -/
def fieldTexts : FieldTexts Entry :=
  [("foreground", Color.grammar.map .color),
   ("background", Color.grammar.map .color),
   ("highlight", Color.grammar.map .color),
   ("selected", Color.grammar.map .color),
   ("comment", Color.grammar.map .color),
   ("lastModified", Color.grammar.map .color),
   ("allModified", Color.grammar.map .color),
   ("accentText", Color.grammar.map .color),
   ("accentColors", (Grammar.list Color.grammar).map .colors),
   ("featureFlags", (Grammar.object fun _ => Grammar.boolean).map .flags),
   ("backendUrl", Grammar.text.map .text)]

/-- The characters of a document, by the entries that it gives to keys. -/
inductive Document : Grammar (List (String × Entry)) where
  /-- Members in any order.  No key is given twice; behind a key that is none of the
  eleven stands any value at all. -/
  | object {t : List Char} {ms : List (String × Option Entry)}
      (holds : Grammar.object fieldTexts.Held t ms) (distinct : ((known ms).map (·.1)).Nodup) :
      Document t (known ms)
  /-- The entries of the first keys, in their order. -/
  | list {t : List Char} {entries : List (String × Entry)}
      (holds : Grammar.list fieldTexts.item t entries)
      (inOrder : entries.map (·.1) <+: fieldTexts.map (·.1)) : Document t entries

/-- The settings have what the entries give, and the built-in value of every key that is
not given. -/
structure Overrides (entries : List (String × Entry)) (s : Settings) : Prop where
  color : ∀ role, s.color role =
    match entries.lookup role.key with
    | some (.color c) => c
    | _ => default.color role
  accents : s.accents =
    match entries.lookup "accentColors" with
    | some (.colors cs) => cs
    | _ => default.accents
  /-- Of flags that are listed with one name the last one counts. -/
  flags : ∀ name, s.flags.get? name =
    match entries.lookup "featureFlags" with
    | some (.flags ms) => ms.reverse.lookup name
    | _ => default.flags.get? name
  backendUrl : s.backendUrl =
    match entries.lookup "backendUrl" with
    | some (.text t) => t
    | _ => default.backendUrl

/-! ## Putting entries into settings -/

/-- The settings with the entry of a key. -/
def put (key : String) (e : Entry) (s : Settings) : Settings :=
  match e with
  | .color c =>
      match ColorRole.all.find? fun role => role.key = key with
      | some role => s.setColor role c
      | none => s
  | .colors cs => if key = "accentColors" then { s with accents := cs } else s
  | .flags ms => if key = "featureFlags" then { s with flags := .assigned ms } else s
  | .text t => if key = "backendUrl" then { s with backendUrl := t } else s

theorem setColor_rest (s : Settings) (role : ColorRole) (c : Color) :
    (s.setColor role c).accents = s.accents ∧ (s.setColor role c).flags = s.flags ∧
      (s.setColor role c).backendUrl = s.backendUrl := by
  cases role <;> exact ⟨rfl, rfl, rfl⟩

theorem color_put (role : ColorRole) (key : String) (e : Entry) (s : Settings) :
    (put key e s).color role =
      if key = role.key then e.colorOr (s.color role) else s.color role := by
  cases e with
  | color c =>
      unfold put
      dsimp only
      split
      · next other found =>
        -- keys tell the roles apart
        have isKey : other.key = key := by simpa using List.find?_some found
        rw [color_setColor, ← isKey]
        by_cases same : role = other
        · rw [if_pos same, if_pos (by rw [same]), Entry.colorOr]
        · rw [if_neg same, if_neg fun sameKey => same (ColorRole.key_injective sameKey).symm]
      · next noRole =>
        rw [if_neg]
        rintro rfl
        rw [ColorRole.find?_key role] at noRole
        cases noRole
  | colors cs =>
      unfold put
      dsimp only
      split <;> cases role <;> simp [color]
  | flags ms =>
      unfold put
      dsimp only
      split <;> cases role <;> simp [color]
  | text t =>
      unfold put
      dsimp only
      split <;> cases role <;> simp [color]

theorem accents_put (key : String) (e : Entry) (s : Settings) :
    (put key e s).accents =
      if key = "accentColors" then e.colorsOr s.accents else s.accents := by
  unfold put
  cases e with
  | color c =>
      dsimp only
      split
      · simp [(setColor_rest s _ c).1]
      · simp
  | colors cs =>
      dsimp only
      split <;> rfl
  | flags ms =>
      dsimp only
      split <;> simp
  | text t =>
      dsimp only
      split <;> simp

theorem flags_put (name key : String) (e : Entry) (s : Settings) :
    (put key e s).flags.get? name =
      if key = "featureFlags" then e.flagOr name (s.flags.get? name) else s.flags.get? name := by
  unfold put
  cases e with
  | color c =>
      dsimp only
      split
      · simp [(setColor_rest s _ c).2.1]
      · simp
  | colors cs =>
      dsimp only
      split <;> simp
  | flags ms =>
      dsimp only
      split
      · exact Flags.get?_assigned ms name
      · rfl
  | text t =>
      dsimp only
      split <;> simp

theorem backendUrl_put (key : String) (e : Entry) (s : Settings) :
    (put key e s).backendUrl =
      if key = "backendUrl" then e.textOr s.backendUrl else s.backendUrl := by
  unfold put
  cases e with
  | color c =>
      dsimp only
      split
      · simp [(setColor_rest s _ c).2.2]
      · simp
  | colors cs =>
      dsimp only
      split <;> simp
  | flags ms =>
      dsimp only
      split <;> simp
  | text t =>
      dsimp only
      split <;> rfl

/-- Entries of different keys override the built-in settings. -/
theorem overrides_putAll {entries : List (String × Entry)}
    (distinct : (entries.map (·.1)).Nodup) : Overrides entries (putAll put default entries) where
  color role := by
    have seen := Json.view_putAll (fun s => s.color role) (fun e c => e.colorOr c)
      (color_put role) distinct default
    refine seen.trans ?_
    cases entries.lookup role.key with
    | none => rfl
    | some e => cases e <;> rfl
  accents := by
    have seen := Json.view_putAll accents (fun e cs => e.colorsOr cs) accents_put distinct default
    refine seen.trans ?_
    cases entries.lookup "accentColors" with
    | none => rfl
    | some e => cases e <;> rfl
  flags name := by
    have seen := Json.view_putAll (fun s => s.flags.get? name) (fun e on => e.flagOr name on)
      (flags_put name) distinct default
    refine seen.trans ?_
    cases entries.lookup "featureFlags" with
    | none => rfl
    | some e => cases e <;> rfl
  backendUrl := by
    have seen := Json.view_putAll backendUrl (fun e t => e.textOr t) backendUrl_put distinct default
    refine seen.trans ?_
    cases entries.lookup "backendUrl" with
    | none => rfl
    | some e => cases e <;> rfl

/-- Settings are told apart by their colors and by the other fields. -/
theorem ext_color {s s' : Settings} (color : ∀ role, s.color role = s'.color role)
    (accents : s.accents = s'.accents) (flags : s.flags = s'.flags)
    (backendUrl : s.backendUrl = s'.backendUrl) : s = s' := by
  have foreground := color .foreground
  have background := color .background
  have highlight := color .highlight
  have selected := color .selected
  have comment := color .comment
  have lastModified := color .lastModified
  have allModified := color .allModified
  have accentText := color .accentText
  cases s
  cases s'
  simp_all [Settings.color]

/-- Entries override to one value. -/
theorem Overrides.unique {entries : List (String × Entry)} {s s' : Settings}
    (overrides : Overrides entries s) (overrides' : Overrides entries s') : s = s' :=
  ext_color (fun role => (overrides.color role).trans (overrides'.color role).symm)
    (overrides.accents.trans overrides'.accents.symm)
    (Flags.ext_get? fun name => (overrides.flags name).trans (overrides'.flags name).symm)
    (overrides.backendUrl.trans overrides'.backendUrl.symm)

/-! ## Reading documents -/

theorem exact_colorField (role : ColorRole) :
    Field.Exact put (colorField role) (role.key, Color.grammar.map .color) := by
  refine Field.exact_of Color.exact_reader Entry.color (fun c s => ?_) false false
  simp only [put, ColorRole.find?_key]

theorem exact_flagsField :
    Field.Exact put
      (.of "featureFlags" Flags.reader (fun fs s => { s with flags := fs }) false false)
      ("featureFlags", (Grammar.object fun _ => Grammar.boolean).map .flags) where
  name := rfl
  read s := by
    have stored := Field.exact_read Flags.exact_reader "featureFlags"
      (fun fs (s : Settings) => { s with flags := fs }) false false s
    rw [Grammar.map_map] at stored ⊢
    exact stored

/-- The fields of the document read what stands behind their keys. -/
theorem exact_fields : List.Forall₂ (Field.Exact put) layout.fields fieldTexts := by
  have keys : fieldTexts =
      ColorRole.all.map (fun role => (role.key, Color.grammar.map .color)) ++
        [("accentColors", (Grammar.list Color.grammar).map .colors),
         ("featureFlags", (Grammar.object fun _ => Grammar.boolean).map .flags),
         ("backendUrl", Grammar.text.map .text)] := rfl
  rw [keys, layout_fields]
  refine List.rel_append ?_ (.cons ?_ (.cons exact_flagsField (.cons ?_ .nil)))
  · rw [List.forall₂_map_left_iff, List.forall₂_map_right_iff]
    exact List.forall₂_same.2 fun role _ => exact_colorField role
  · exact Field.exact_of (Json.exact_list Color.exact_reader) Entry.colors (fun _ _ => rfl) _ _
  · exact Field.exact_of Json.exact_text Entry.text (fun _ _ => rfl) _ _

theorem nodup_fieldTexts : (fieldTexts.map (·.1)).Nodup := by
  have keys : fieldTexts.map (·.1) =
      ["foreground", "background", "highlight", "selected", "comment", "lastModified",
       "allModified", "accentText", "accentColors", "featureFlags", "backendUrl"] := rfl
  rw [keys]
  decide

/-- No field of settings has to be in a list. -/
theorem inList_layout : ∀ field ∈ layout.fields, field.inList = false := by
  decide

/-- A layout none of whose fields has to occur takes documents and nothing else. -/
theorem given_iff_of_optional {σ : Type} {l : Json.Layout σ}
    (optional : ∀ field ∈ l.fields, field.inObject = false ∧ field.inList = false)
    {t : List Char} {entries : List (String × Entry)} :
    Json.Given l fieldTexts t entries ↔ Document t entries := by
  constructor
  · intro given
    cases given with
    | object holds distinct _ => exact .object holds distinct
    | list holds inOrder _ => exact .list holds inOrder
  · intro document
    cases document with
    | object holds distinct =>
        refine .object holds distinct fun field member demanded => ?_
        rw [(optional field member).1] at demanded
        cases demanded
    | list holds inOrder =>
        exact .list holds inOrder fun field member =>
          (optional field (List.mem_of_mem_drop member)).2

/-- A document is what the layout of settings takes. -/
theorem given_iff {t : List Char} {entries : List (String × Entry)} :
    Json.Given layout fieldTexts t entries ↔ Document t entries :=
  given_iff_of_optional fun field member =>
    ⟨inObject_layout field member, inList_layout field member⟩

/-- A document gives no key twice. -/
theorem Document.nodup {t : List Char} {entries : List (String × Entry)}
    (document : Document t entries) : (entries.map (·.1)).Nodup := by
  cases document with
  | object _ distinct => exact distinct
  | list _ inOrder => exact nodup_fieldTexts.sublist inOrder.sublist

/-- **Decoding accepts exactly the documents of settings and takes them as overrides.**  A
text is read as settings exactly when it is, within white space, an object or a list of the
document's fields, and the settings have what it gives and the built-in value of every key
that it leaves out. -/
theorem decode_eq_ok_iff (source : String) (s : Settings) :
    decode source = .ok s ↔
      ∃ ws t ws' entries, Blank ws ∧ Blank ws' ∧ Document t entries ∧
        source.toList = ws ++ (t ++ ws') ∧ Overrides entries s := by
  have exact := Json.exact_layout exact_fields nodup_fieldTexts default
  refine (Json.document_eq_ok_iff exact).trans ?_
  constructor
  · rintro ⟨ws, t, ws', blank, blank', ⟨entries, given, rfl⟩, same⟩
    have document := given_iff.1 given
    exact ⟨ws, t, ws', entries, blank, blank', document, same, overrides_putAll document.nodup⟩
  · rintro ⟨ws, t, ws', entries, blank, blank', document, same, overrides⟩
    have isPut := (overrides_putAll document.nodup).unique overrides
    exact ⟨ws, t, ws', blank, blank', ⟨entries, given_iff.2 document, isPut⟩, same⟩

/-! ## Beginnings of documents -/

/-- What follows a document in a document is white space. -/
theorem decode_append {front rest : String} {s t : Settings} (begins : decode front = .ok s)
    (whole : decode (front ++ rest) = .ok t) : t = s ∧ Blank rest.toList := by
  have exact := Json.exact_layout exact_fields nodup_fieldTexts default
  obtain ⟨ws, u, ws', blank, blank', holds, same⟩ := (Json.document_eq_ok_iff exact).1 begins
  have read : layout.read default (front ++ rest).toList = .ok (s, ws' ++ rest.toList) := by
    rw [String.toList_append, same, List.append_assoc, List.append_assoc]
    exact Json.layout_read exact_fields nodup_fieldTexts blank holds _
  unfold decode Json.document at whole
  rw [read] at whole
  dsimp only at whole
  split at whole
  · next ended =>
    rw [Json.skipSpace_blank blank'] at ended
    exact ⟨(Except.ok.inj whole).symm, Json.blank_of_skipSpace ended⟩
  · cases whole

theorem last_encodeIndented (s : Settings) : ∃ front, s.encodeIndented.toList = front ++ ['}'] := by
  rw [encodeIndented, Json.Value.indented, String.toList_ofList, toValue]
  exact ⟨_, by rw [Json.Value.write]⟩

theorem encodeIndented_ne (s : Settings) : s.encodeIndented ≠ "" := by
  intro empty
  obtain ⟨front, closed⟩ := last_encodeIndented s
  rw [empty] at closed
  simp at closed

/-- A written document has no beginning that is a document. -/
theorem unread_beginning {s t : Settings} {front rest : String}
    (written : s.encodeIndented = front ++ rest) (short : rest ≠ "") : decode front ≠ .ok t := by
  intro begins
  have whole : decode (front ++ rest) = .ok s :=
    written ▸ decode_write Json.Style.spaced_indented s
  obtain ⟨-, blank⟩ := decode_append begins whole
  obtain ⟨before, closed⟩ := last_encodeIndented s
  rw [written, String.toList_append] at closed
  have last := List.getLast?_eq_some_getLast (mt String.toList_eq_nil_iff.1 short)
  have isBrace := congrArg List.getLast? closed
  rw [List.getLast?_append, last, Option.some_or, List.getLast?_concat] at isBrace
  have isSpace := blank _ (List.mem_of_getLast? last)
  rw [Option.some.inj isBrace] at isSpace
  cases isSpace

end Settings

end ThemeEditor
