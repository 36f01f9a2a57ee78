/-
# ThemeEditor.Proofs.Session.Form -- what a form binding edits

A form binding that is accepted edits one field of the settings, and one that is not
leaves the session as it was (`Edits`, `edits_of_change`).  What is saved then is the
document of the edited settings (`stored_of_save`): it decodes to them, and read as any
JSON value it is the document of the settings before, but for the member of that field
(`replaces_member`).

`edits_one_member` says this of every form binding and of every session.
-/
import ThemeEditor.Proofs.Disk.Overwrite
import ThemeEditor.Proofs.Session.Atomic
import ThemeEditor.Proofs.Settings.Members

namespace ThemeEditor

set_option autoImplicit false

open ThemeEditor.Json (Value)
open Settings (AgreesBut)

/-! ## What a save stores -/

/-- A save that succeeds stores the document of the settings, whatever path the root is. -/
theorem Storage.get_of_save {storage : Storage} {d : Disk} {s : Settings}
    (saved : (storage.save d s).1 = .ok ()) :
    storage.get (storage.save d s).2 settingsKey = .ok (some s.encodeIndented) := by
  unfold save set at saved ⊢
  rw [pathOf_settingsKey] at saved ⊢
  dsimp only at saved ⊢
  split at saved
  · cases saved
  · split at saved
    · next written =>
      exact (get_eq_ok storage).2 (Disk.readText_eq_ok.2 (Disk.readBytes_of_writeText written))
    · cases saved

namespace Session

theorem stored_of_save {s : Session} (saved : s.save.result = .ok ()) :
    s.storage.get s.save.session.world.disk Storage.settingsKey =
      .ok (some s.settings.encodeIndented) := by
  obtain ⟨-, disk, -, succeeds⟩ := save_base s
  rw [disk]
  exact Storage.get_of_save (succeeds.1 saved)

/-- A text is a JSON object with the members of another one, but that one of them has this
value. -/
def Replaces (before key : String) (value : Value) (now : String) : Prop :=
  ∃ ms ms', Value.decode before = .ok (.object ms) ∧ Value.decode now = .ok (.object ms') ∧
    ms'.map (·.1) = ms.map (·.1) ∧ (Value.object ms').get? key = some value ∧
      ∀ other, other ≠ key → (Value.object ms').get? other = (Value.object ms).get? other

theorem replaces_member {key : String} {value : Value} {s t : Settings}
    (agrees : AgreesBut key s t) (holds : t.toValue.get? key = some value) :
    Replaces s.encodeIndented key value t.encodeIndented :=
  ⟨_, _, s.decode_document, t.decode_document, rfl, holds, fun _ ne => agrees.get?_toValue ne⟩

/-! ## One field -/

/-- What a form binding does that edits the field of one key: if it is accepted the settings are
those that were edited, and a save that succeeds stores them under the same keys as before, with
one value replaced.  Others may have used the disk and the palettes before that save. -/
structure Edits {α : Type} (s : Session) (step : Edited α) (accepted : Prop) (key : String)
    (value : Value) (edited : Settings) : Prop where
  succeeds_iff : (∃ a, step.result = .ok a) ↔ accepted
  refused : ¬ accepted → step.session = s
  settings : accepted → step.session.settings = edited
  agrees : AgreesBut key s.settings edited
  stored : accepted → ∀ world : World,
    let saving := { step.session with world := world }.save
    saving.result = .ok () → ∃ text,
      s.storage.get saving.session.world.disk Storage.settingsKey = .ok (some text) ∧
        Settings.decode text = .ok edited ∧ Replaces s.settings.encodeIndented key value text

variable {s : Session} {α : Type} {step : Edited α} {accepted : Prop} {key : String}
  {value : Value}

theorem edits_of_change {f : Settings → Settings × α} (accepts : accepted → step = s.change f)
    (refuses : ¬ accepted → ∃ e, step = s.refuse e)
    (agrees : AgreesBut key s.settings (f s.settings).1)
    (holds : (f s.settings).1.toValue.get? key = some value) :
    Edits s step accepted key value (f s.settings).1 where
  succeeds_iff := by
    constructor
    · intro ⟨a, succeeded⟩
      by_contra not
      obtain ⟨e, refused⟩ := refuses not
      rw [refused] at succeeded
      cases succeeded
    · intro allowed
      rw [accepts allowed]
      exact ⟨_, rfl⟩
  refused not := by
    obtain ⟨e, refused⟩ := refuses not
    rw [refused]
    rfl
  settings allowed := by
    rw [accepts allowed]
    rfl
  agrees := agrees
  stored := by
    intro allowed world saving saved
    have same : saving = { (s.change f).session with world := world }.save := by
      rw [← accepts allowed]
    rw [same] at saved ⊢
    have storage : { (s.change f).session with world := world }.storage = s.storage := rfl
    have edited : { (s.change f).session with world := world }.settings = (f s.settings).1 := rfl
    have stored := stored_of_save saved
    rw [storage, edited] at stored
    exact ⟨_, stored, Settings.decode_encodeIndented _, replaces_member agrees holds⟩

/-- A form binding that checks its input and does nothing else before the edit. -/
theorem edits_of_check {check : Except Input.Rejection Unit} {f : Settings → Settings × α}
    (same : step = match check with
      | .error r => s.refuse r.toError
      | .ok () => s.change f)
    (agrees : AgreesBut key s.settings (f s.settings).1)
    (holds : (f s.settings).1.toValue.get? key = some value) :
    Edits s step (check = .ok ()) key value (f s.settings).1 := by
  subst same
  refine edits_of_change ?_ ?_ agrees holds
  · intro checked
    rw [checked]
  · intro unchecked
    cases check with
    | error r => exact ⟨_, rfl⟩
    | ok done => exact absurd rfl unchecked

/-! ## Every field -/

theorem edits_setColor (s : Session) (role : ColorRole) (text : String) :
    Edits s (s.setColor role text) (Input.checkColor text = .ok ()) role.key (.text text)
      (s.settings.setColor role ⟨text⟩) := by
  have holds : (s.settings.setColor role ⟨text⟩).toValue.get? role.key = some (.text text) := by
    rw [Settings.get?_key, Settings.color_setColor, if_pos rfl]
    rfl
  exact edits_of_check (f := fun t => (t.setColor role ⟨text⟩, ())) rfl
    (Settings.agreesBut_setColor s.settings role ⟨text⟩) holds

theorem edits_setAccent (s : Session) (index : Nat) (text : String) :
    Edits s (s.setAccent index text)
      (Input.checkColor text = .ok () ∧ index < s.settings.accents.length) "accentColors"
      (.list ((s.settings.accents.set index ⟨text⟩).map Color.toValue))
      { s.settings with accents := s.settings.accents.set index ⟨text⟩ } := by
  refine edits_of_change (f := fun t => ({ t with accents := t.accents.set index ⟨text⟩ }, ()))
    ?_ ?_ (Settings.agreesBut_accents s.settings _) (Settings.get?_accents _)
  · intro ⟨checked, within⟩
    have inside : ¬ s.settings.accents.length ≤ index := by omega
    simp only [setAccent, checked, inside, if_false]
  · intro not
    unfold setAccent
    split
    · exact ⟨_, rfl⟩
    · next checked =>
      have outside : s.settings.accents.length ≤ index := by
        by_contra inside
        exact not ⟨checked, by omega⟩
      exact ⟨_, if_pos outside⟩

theorem edits_pushAccent (s : Session) (text : String) :
    Edits s (s.pushAccent text) (Input.checkColor text = .ok ()) "accentColors"
      (.list ((s.settings.accents ++ [Color.mk text]).map Color.toValue))
      { s.settings with accents := s.settings.accents ++ [Color.mk text] } :=
  edits_of_check (f := fun t => ({ t with accents := t.accents ++ [Color.mk text] }, ())) rfl
    (Settings.agreesBut_accents s.settings _) (Settings.get?_accents _)

theorem edits_removeAccent (s : Session) (index : Nat) :
    Edits s (s.removeAccent index) (index < s.settings.accents.length) "accentColors"
      (.list ((s.settings.accents.eraseIdx index).map Color.toValue))
      { s.settings with accents := s.settings.accents.eraseIdx index } := by
  refine edits_of_change (f := fun t => ({ t with accents := t.accents.eraseIdx index },
    s.settings.accents.getD index default)) ?_ ?_ (Settings.agreesBut_accents s.settings _)
    (Settings.get?_accents _)
  · intro within
    have there := List.getElem?_eq_getElem within
    simp only [removeAccent, there, List.getD_eq_getElem?_getD, Option.getD_some]
  · intro beyond
    have nothing : s.settings.accents[index]? = none := List.getElem?_eq_none (by omega)
    simp only [removeAccent, nothing]
    exact ⟨_, rfl⟩

/-- What is removed is returned. -/
theorem removeAccent_eq_ok {index : Nat} {color : Color} :
    (s.removeAccent index).result = .ok color ↔ s.settings.accents[index]? = some color := by
  unfold removeAccent
  split
  · next nothing =>
    rw [nothing]
    constructor <;> nofun
  · next there =>
    rw [there]
    constructor
    · intro returned
      exact congrArg some (Except.ok.inj returned)
    · intro same
      exact congrArg Except.ok (Option.some.inj same)

theorem edits_setFlag (s : Session) (name : String) (on : Bool) :
    Edits s (s.setFlag name on) (Input.checkFlagName name = .ok ()) "featureFlags"
      (s.settings.flags.insert name on).toValue (s.settings.setFlag name on) :=
  edits_of_check (f := fun t => (t.setFlag name on, ())) rfl
    (Settings.agreesBut_setFlag s.settings name on) (Settings.get?_flags _)

theorem edits_setBackendUrl (s : Session) (url : String) :
    Edits s (s.setBackendUrl url) (Input.checkBackendUrl (Text.trim url) = .ok ()) "backendUrl"
      (.text (Text.trim url)) { s.settings with backendUrl := Text.trim url } :=
  edits_of_check (f := fun t => ({ t with backendUrl := Text.trim url }, ())) rfl
    (Settings.agreesBut_backendUrl s.settings _) (Settings.get?_backendUrl _)

/-- **Every form binding edits the one member that it names, all the way to the disk.**  In
whatever state a session is: a color is set in the role that its name spells and in no other one;
accents are replaced, added and removed at their places; a flag is set apart from all others; the
address is set without the white space around it.  Each binding succeeds exactly if what was typed
is accepted and the place is one that there is. -/
theorem edits_one_member (s : Session) :
    (∀ name role text, ColorRole.ofName? name = some role →
      ColorRole.normalized name = Text.lower role.key ∧
        Edits s (s.setColor role text) (Input.checkColor text = .ok ()) role.key (.text text)
          (s.settings.setColor role ⟨text⟩) ∧
        ∀ other, (s.settings.setColor role ⟨text⟩).color other =
          if other = role then ⟨text⟩ else s.settings.color other) ∧
      (∀ index text, Edits s (s.setAccent index text)
        (Input.checkColor text = .ok () ∧ index < s.settings.accents.length) "accentColors"
        (.list ((s.settings.accents.set index ⟨text⟩).map Color.toValue))
        { s.settings with accents := s.settings.accents.set index ⟨text⟩ }) ∧
      (∀ text, Edits s (s.pushAccent text) (Input.checkColor text = .ok ()) "accentColors"
        (.list ((s.settings.accents ++ [Color.mk text]).map Color.toValue))
        { s.settings with accents := s.settings.accents ++ [Color.mk text] }) ∧
      (∀ index, Edits s (s.removeAccent index) (index < s.settings.accents.length) "accentColors"
          (.list ((s.settings.accents.eraseIdx index).map Color.toValue))
          { s.settings with accents := s.settings.accents.eraseIdx index } ∧
        ∀ color, (s.removeAccent index).result = .ok color ↔
          s.settings.accents[index]? = some color) ∧
      (∀ name on, Edits s (s.setFlag name on) (Input.checkFlagName name = .ok ()) "featureFlags"
          (s.settings.flags.insert name on).toValue (s.settings.setFlag name on) ∧
        ∀ other, (s.settings.setFlag name on).flags.get? other =
            (if other = name then some on else s.settings.flags.get? other) ∧
          (s.settings.flags.insert name on).toValue.get? other =
            if other = name then some (.boolean on) else s.settings.flags.toValue.get? other) ∧
      ∀ url, Edits s (s.setBackendUrl url) (Input.checkBackendUrl (Text.trim url) = .ok ())
        "backendUrl" (.text (Text.trim url))
        { s.settings with backendUrl := Text.trim url } := by
  refine ⟨?_, edits_setAccent s, edits_pushAccent s, ?_, ?_, edits_setBackendUrl s⟩
  · intro name role text named
    exact ⟨ColorRole.normalized_of_ofName? named, edits_setColor s role text,
      fun other => Settings.color_setColor s.settings role other ⟨text⟩⟩
  · intro index
    exact ⟨edits_removeAccent s index, fun color => removeAccent_eq_ok⟩
  · intro name on
    exact ⟨edits_setFlag s name on, fun other =>
      ⟨Flags.get?_insert s.settings.flags name on other,
        Flags.get?_toValue_insert s.settings.flags name on other⟩⟩

/-- The accent text is set by a loose spelling of its key, and the session is saved. -/
theorem edits_one_member_accentText :
    ColorRole.ofName? "ACCENT-text" = some .accentText ∧
      (blankSession.setColor .accentText "#fff").session.save.result = .ok () ∧
      ∃ text, blankSession.storage.get
          (blankSession.setColor .accentText "#fff").session.save.session.world.disk
          Storage.settingsKey = .ok (some text) ∧
        Settings.decode text = .ok (blankSession.settings.setColor .accentText ⟨"#fff"⟩) ∧
        Replaces blankSession.settings.encodeIndented "accentText" (.text "#fff") text := by
  have named : ColorRole.ofName? "ACCENT-text" = some .accentText := by decide
  have accepted : Input.checkColor "#fff" = .ok () := by decide
  have saved : (blankSession.setColor .accentText "#fff").session.save.result = .ok () := by
    decide +kernel
  obtain ⟨color, -⟩ := edits_one_member blankSession
  obtain ⟨-, edits, -⟩ := color "ACCENT-text" .accentText "#fff" named
  exact ⟨named, saved,
    edits.stored accepted (blankSession.setColor .accentText "#fff").session.world saved⟩

end Session

end ThemeEditor
