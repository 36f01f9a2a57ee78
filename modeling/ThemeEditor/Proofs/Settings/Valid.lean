/-
# ThemeEditor.Proofs.Settings.Valid -- settings that could be typed in

Nothing is checked but what is typed in by hand.  Settings are valid
(`Settings.Valid`) when every part of them would pass the check of its own field.
The built-in settings are, and each edit that a form makes keeps settings valid if
what it puts in has passed (`Valid.setColor` and its companions).
-/
import ThemeEditor.Input.Check
import ThemeEditor.Proofs.Text.Trim
import ThemeEditor.Settings.Basic

namespace ThemeEditor

set_option autoImplicit false

open Input (checkBackendUrl checkColor checkFlagName)

namespace Input

/-- A check accepts what it finds no fault with. -/
theorem accepts_iff {fault : Option String} {rejection : String → Rejection} :
    (match fault with
      | none => Except.ok ()
      | some reason => .error (rejection reason)) = .ok () ↔ fault = none := by
  cases fault <;> simp

/-- An address that passes has no white space in it. -/
theorem notBlank_of_checkBackendUrl {url : String} (checked : checkBackendUrl url = .ok ()) :
    ∀ c ∈ url.toList, Text.isBlank c = false := by
  have faultless : backendUrlFault? url = none := accepts_iff.1 checked
  unfold backendUrlFault? at faultless
  split at faultless
  · next empty =>
    rw [empty]
    nofun
  · split at faultless
    · cases faultless
    · split at faultless
      · cases faultless
      · split at faultless
        · cases faultless
        · next clean => simpa using clean

/-- An address that passes has nothing around it to be trimmed. -/
theorem trim_of_checkBackendUrl {url : String} (checked : checkBackendUrl url = .ok ()) :
    Text.trim url = url :=
  Text.trim_of_notBlank (notBlank_of_checkBackendUrl checked)

end Input

namespace Settings

/-- Every part of the settings passes the check of its field. -/
structure Valid (s : Settings) : Prop where
  colors : ∀ role, checkColor (s.color role).text = .ok ()
  accents : ∀ c ∈ s.accents, checkColor c.text = .ok ()
  flags : ∀ e ∈ s.flags.entries, checkFlagName e.1 = .ok ()
  backendUrl : checkBackendUrl s.backendUrl = .ok ()
  trimmed : Text.trim s.backendUrl = s.backendUrl

theorem valid_default : Valid .default where
  colors role := by cases role <;> rfl
  accents := by
    simp only [default, List.forall_mem_cons]
    exact ⟨rfl, rfl, rfl, rfl, nofun⟩
  flags := nofun
  backendUrl := rfl
  trimmed := by decide

variable {s : Settings}

theorem Valid.setColor (valid : s.Valid) (role : ColorRole) {value : String}
    (checked : checkColor value = .ok ()) : (s.setColor role ⟨value⟩).Valid where
  colors other := by
    rw [color_setColor]
    split
    · exact checked
    · exact valid.colors other
  accents := by cases role <;> exact valid.accents
  flags := by cases role <;> exact valid.flags
  backendUrl := by cases role <;> exact valid.backendUrl
  trimmed := by cases role <;> exact valid.trimmed

/-- Accents are left out, moved, or added when they have passed. -/
theorem Valid.withAccents (valid : s.Valid) {accents : List Color}
    (each : ∀ c ∈ accents, c ∈ s.accents ∨ checkColor c.text = .ok ()) :
    Valid { s with accents } where
  colors role := by
    have same := valid.colors role
    cases role <;> exact same
  accents c member := (each c member).elim (valid.accents c) id
  flags := valid.flags
  backendUrl := valid.backendUrl
  trimmed := valid.trimmed

theorem Valid.setFlag (valid : s.Valid) {name : String} (checked : checkFlagName name = .ok ())
    (on : Bool) : (s.setFlag name on).Valid where
  colors role := by
    have same := valid.colors role
    cases role <;> exact same
  accents := valid.accents
  flags e member := by
    obtain rfl | held := Flags.mem_insertEntry member
    · exact checked
    · exact valid.flags e held
  backendUrl := valid.backendUrl
  trimmed := valid.trimmed

theorem Valid.withBackendUrl (valid : s.Valid) {url : String}
    (checked : checkBackendUrl url = .ok ()) : Valid { s with backendUrl := url } where
  colors role := by
    have same := valid.colors role
    cases role <;> exact same
  accents := valid.accents
  flags := valid.flags
  backendUrl := checked
  trimmed := Input.trim_of_checkBackendUrl checked

end Settings

end ThemeEditor
