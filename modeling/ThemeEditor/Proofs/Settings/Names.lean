/-
# ThemeEditor.Proofs.Settings.Names -- the names of a document and the roles of its colors

Four tables speak of the named colors: the names a document is written with, the names
it is read by, the keys of the roles, and the fields that a role gets and sets.  They
agree.  A document holds the color of each role under the key of the role
(`Settings.toValue_eq`), and what is read under that key becomes the color of the role
(`Settings.layout_fields`).  What lies under the other three names has no role.
-/
import ThemeEditor.Settings.Document

namespace ThemeEditor

set_option autoImplicit false

namespace ColorRole

/-- Looking for the key of a role finds the role. -/
theorem find?_key (role : ColorRole) :
    (all.find? fun other => other.key = role.key) = some role := by
  cases role <;> rfl

/-- The keys tell the roles apart. -/
theorem key_injective {role other : ColorRole} (same : role.key = other.key) : role = other := by
  have found := find?_key role
  rw [same, find?_key other] at found
  exact (Option.some.inj found).symm

end ColorRole

namespace Settings

/-- The field of a color role. -/
def colorField (role : ColorRole) : Json.Field Settings :=
  .of role.key Color.reader (fun c s => s.setColor role c) false false

/-- The fields without a role. -/
def otherFields : List (Json.Field Settings) :=
  [.of "accentColors" (Json.list Color.reader) (fun cs s => { s with accents := cs }) false false,
   .of "featureFlags" Flags.reader (fun fs s => { s with flags := fs }) false false,
   .of "backendUrl" Json.text (fun t s => { s with backendUrl := t }) false false]

/-- The fields of the document are those of the roles and three more. -/
theorem layout_fields : layout.fields = ColorRole.all.map colorField ++ otherFields := rfl

/-- The members without a role. -/
def otherMembers (s : Settings) : List (String × Json.Value) :=
  [("accentColors", .list (s.accents.map Color.toValue)),
   ("featureFlags", s.flags.toValue),
   ("backendUrl", .text s.backendUrl)]

/-- The members of the document are those of the roles and three more. -/
theorem toValue_eq (s : Settings) :
    s.toValue = .object
      (ColorRole.all.map (fun role => (role.key, (s.color role).toValue)) ++ s.otherMembers) :=
  rfl

end Settings

end ThemeEditor
