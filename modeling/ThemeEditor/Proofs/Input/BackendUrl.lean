/-
# ThemeEditor.Proofs.Input.BackendUrl -- which backend addresses may be typed in

An address is a scheme and a text without white space behind it (`IsAddress`), whose host
part ends at the first `/`, `?`, `#` or `:`.  It should not be empty (`Hosted`).  The check
looks for a slash there and for nothing else, so what it accepts has a host, or begins
behind the scheme with one of the other characters that end a host (`Hostless`,
`checkBackendUrl_iff`).

The white space around an address is taken away before it is checked, and what was
checked is what is stored (`stored_backendUrl`).
-/
import Mathlib.Data.Bool.AllAny
import ThemeEditor.Proofs.Session.Form
import ThemeEditor.Proofs.Settings.Valid
import ThemeEditor.Proofs.Theme.Address

namespace ThemeEditor.Input

set_option autoImplicit false

open Text (Trimmed trimmed_iff)
open ThemeFile (schemes)

/-! ## Addresses and their hosts -/

/-- The characters that end the host of an address. -/
def hostEnds : List Char := ['/', '?', '#', ':']

/-- The host part of what stands behind a scheme. -/
def hostPart (rest : List Char) : List Char :=
  rest.takeWhile fun c => c ∉ hostEnds

/-- A scheme, and behind it a text without white space. -/
structure IsAddress (url rest : List Char) : Prop where
  behind : ∃ scheme ∈ schemes, url = scheme.toList ++ rest
  solid : ∀ c ∈ rest, Text.isBlank c = false

/-- An address whose host part is not empty. -/
def Hosted (url : List Char) : Prop :=
  ∃ rest, IsAddress url rest ∧ hostPart rest ≠ []

/-- An address whose host part is empty, but not for a slash. -/
def Hostless (url : List Char) : Prop :=
  ∃ c rest, IsAddress url (c :: rest) ∧ c ∈ ['?', '#', ':']

variable {url rest : List Char}

theorem hostPart_ne_nil_iff : hostPart rest ≠ [] ↔ ∃ c more, rest = c :: more ∧ c ∉ hostEnds := by
  unfold hostPart
  cases rest with
  | nil => simp
  | cons c more =>
      by_cases ends : c ∈ hostEnds
      · simp [ends]
      · simp [ends]

/-- A text begins with one scheme at most. -/
theorem afterScheme?_eq_some :
    afterScheme? url = some rest ↔ ∃ scheme ∈ schemes, url = scheme.toList ++ rest := by
  have http : "http://".toList = ['h', 't', 't', 'p', ':', '/', '/'] := by decide
  have https : "https://".toList = ['h', 't', 't', 'p', 's', ':', '/', '/'] := by decide
  unfold afterScheme?
  constructor
  · intro found
    split at found
    · next begins =>
      obtain ⟨more, rfl⟩ := List.isPrefixOf_iff_prefix.1 begins
      rw [https] at found
      exact ⟨"https://", by decide, by simpa using found⟩
    · split at found
      · next begins =>
        obtain ⟨more, rfl⟩ := List.isPrefixOf_iff_prefix.1 begins
        rw [http] at found
        exact ⟨"http://", by decide, by simpa using found⟩
      · cases found
  · rintro ⟨scheme, member, rfl⟩
    simp only [schemes, List.mem_cons, List.not_mem_nil, or_false] at member
    rcases member with rfl | rfl
    · simp [http, https]
    · simp [https]

theorem IsAddress.unique {rest' : List Char} (address : IsAddress url rest)
    (address' : IsAddress url rest') : rest = rest' := by
  have found := afterScheme?_eq_some.2 address.behind
  rw [afterScheme?_eq_some.2 address'.behind] at found
  exact (Option.some.inj found).symm

/-- No address has a host and has none. -/
theorem not_hosted_of_hostless (hostless : Hostless url) : ¬ Hosted url := by
  obtain ⟨c, rest, address, isEnd⟩ := hostless
  rintro ⟨rest', address', host⟩
  rw [← address.unique address', hostPart_ne_nil_iff] at host
  obtain ⟨d, more, same, noEnd⟩ := host
  obtain ⟨rfl, -⟩ := List.cons.inj same
  exact noEnd (List.mem_cons_of_mem '/' isEnd)

/-! ## The check -/

/-- What stands behind the scheme must be something other than a slash. -/
theorem hosted_or_hostless_iff :
    Hosted url ∨ Hostless url ↔ ∃ c rest, IsAddress url (c :: rest) ∧ c ≠ '/' := by
  constructor
  · rintro (⟨rest, address, host⟩ | ⟨c, rest, address, isEnd⟩)
    · obtain ⟨c, more, rfl, noEnd⟩ := hostPart_ne_nil_iff.1 host
      refine ⟨c, more, address, ?_⟩
      rintro rfl
      exact noEnd (by decide)
    · refine ⟨c, rest, address, ?_⟩
      rintro rfl
      exact absurd isEnd (by decide)
  · rintro ⟨c, rest, address, noSlash⟩
    by_cases isEnd : c ∈ ['?', '#', ':']
    · exact .inr ⟨c, rest, address, isEnd⟩
    · have noEnd : c ∉ hostEnds := by
        intro member
        rcases List.mem_cons.1 member with isSlash | other
        · exact noSlash isSlash
        · exact isEnd other
      exact .inl ⟨c :: rest, address, hostPart_ne_nil_iff.2 ⟨c, rest, rfl, noEnd⟩⟩

theorem solid_schemes : ∀ scheme ∈ schemes, ∀ c ∈ scheme.toList, Text.isBlank c = false := by
  have solid : ∀ scheme ∈ schemes, (scheme.toList.all fun c => Text.isBlank c = false) = true := by
    decide +kernel
  exact fun scheme member => List.all_iff_forall_prop.1 (solid scheme member)

/-- White space in an address stands behind its scheme. -/
theorem solid_iff (behind : ∃ scheme ∈ schemes, url = scheme.toList ++ rest) :
    (∀ c ∈ url, Text.isBlank c = false) ↔ ∀ c ∈ rest, Text.isBlank c = false := by
  obtain ⟨scheme, member, rfl⟩ := behind
  rw [List.forall_mem_append]
  exact and_iff_right (solid_schemes scheme member)

theorem backendUrlFault?_eq_none_iff (url : String) :
    backendUrlFault? url = none ↔ url = "" ∨ Hosted url.toList ∨ Hostless url.toList := by
  rw [hosted_or_hostless_iff]
  unfold backendUrlFault?
  split
  · next empty => exact iff_of_true rfl (.inl empty)
  · next nonempty =>
    rw [or_iff_right nonempty]
    split
    · next lost =>
      refine iff_of_false nofun ?_
      rintro ⟨c, rest, address, -⟩
      rw [afterScheme?_eq_some.2 address.behind] at lost
      cases lost
    · next rest found =>
      have behind := afterScheme?_eq_some.1 found
      split
      · next noHost =>
        refine iff_of_false nofun ?_
        rintro ⟨c, more, address, noSlash⟩
        rw [afterScheme?_eq_some.2 address.behind] at found
        cases found
        simp [noSlash] at noHost
      · next host =>
        split
        · next blank =>
          refine iff_of_false nofun ?_
          rintro ⟨c, more, address, -⟩
          have solid := (solid_iff address.behind).2 address.solid
          rw [List.any_eq_true] at blank
          obtain ⟨d, member, isBlank⟩ := blank
          rw [solid d member] at isBlank
          cases isBlank
        · next solid =>
          have clean : ∀ c ∈ rest, Text.isBlank c = false :=
            (solid_iff behind).1 (by simpa using solid)
          refine iff_of_true rfl ?_
          cases rest with
          | nil => simp at host
          | cons c more => exact ⟨c, more, ⟨behind, clean⟩, by simpa using host⟩

/-- What is accepted is empty, an address with a host, or one whose host is missing unnoticed. -/
theorem checkBackendUrl_iff (url : String) :
    checkBackendUrl url = .ok () ↔ url = "" ∨ Hosted url.toList ∨ Hostless url.toList := by
  rw [← backendUrlFault?_eq_none_iff]
  exact accepts_iff

/-- **The backend addresses that are stored.**  Whatever is typed in, `url` is the part of it
without the white space around it.  It is accepted exactly when it is empty or an address without
white space behind `http://` or `https://` whose host is not empty, or is missing before a `?`, a
`#` or a colon.  What is accepted is stored, and anything else leaves the session as it was. -/
theorem stored_backendUrl (s : Session) (text : String) :
    ∃ url : String, (∀ other : String, Trimmed text.toList other.toList ↔ other = url) ∧
      ((s.setBackendUrl text).result = .ok () ↔
        url = "" ∨ Hosted url.toList ∨ Hostless url.toList) ∧
      ¬ (Hosted url.toList ∧ Hostless url.toList) ∧
      ((s.setBackendUrl text).result = .ok () →
        (s.setBackendUrl text).session.settings = { s.settings with backendUrl := url }) ∧
      (¬ (s.setBackendUrl text).result = .ok () → (s.setBackendUrl text).session = s) := by
  have edits := Session.edits_setBackendUrl s text
  have succeeds : (s.setBackendUrl text).result = .ok () ↔
      checkBackendUrl (Text.trim text) = .ok () := by
    rw [← edits.succeeds_iff]
    exact ⟨fun done => ⟨(), done⟩, fun ⟨_, done⟩ => done⟩
  refine ⟨Text.trim text, fun other => trimmed_iff, ?_, ?_, ?_, ?_⟩
  · rw [succeeds, checkBackendUrl_iff]
  · exact fun ⟨hosted, hostless⟩ => not_hosted_of_hostless hostless hosted
  · exact fun done => edits.settings (succeeds.1 done)
  · exact fun failed => edits.refused (mt succeeds.2 failed)

/-- An address is stored without the white space around it, and one without a scheme is not
stored. -/
theorem stored_backendUrl_spaced :
    (Session.blankSession.setBackendUrl "  https://api.example.com\u3000").result = .ok () ∧
      (Session.blankSession.setBackendUrl
        "  https://api.example.com\u3000").session.settings =
          { Session.blankSession.settings with backendUrl := "https://api.example.com" } ∧
      ¬ (Session.blankSession.setBackendUrl "api.example.com").result = .ok () ∧
      (Session.blankSession.setBackendUrl "api.example.com").session = Session.blankSession := by
  have accepted : (Session.blankSession.setBackendUrl
      "  https://api.example.com\u3000").result = .ok () := by decide +kernel
  have rejected : ¬ (Session.blankSession.setBackendUrl "api.example.com").result = .ok () := by
    decide +kernel
  obtain ⟨url, trimmed, -, -, stored, -⟩ :=
    stored_backendUrl Session.blankSession "  https://api.example.com\u3000"
  obtain ⟨-, -, -, -, -, kept⟩ := stored_backendUrl Session.blankSession "api.example.com"
  have same : "https://api.example.com" = url :=
    (trimmed _).1 (trimmed_iff.2 (by decide +kernel))
  rw [← same] at stored
  exact ⟨accepted, stored accepted, rejected, kept rejected⟩

/-- A port without a host is accepted and stored. -/
theorem hostless_backendUrl :
    (Session.blankSession.setBackendUrl "http://:80").result = .ok () ∧
      (Session.blankSession.setBackendUrl "http://:80").session.settings.backendUrl =
        "http://:80" ∧
      ¬ "http://:80" = "" ∧ ¬ Hosted "http://:80".toList := by
  refine ⟨by decide +kernel, by decide +kernel, by decide, ?_⟩
  have behind : "http://:80".toList = "http://".toList ++ [':', '8', '0'] := by decide
  have solid : ∀ c ∈ [':', '8', '0'], Text.isBlank c = false :=
    List.all_iff_forall_prop.1 (by decide)
  exact not_hosted_of_hostless
    ⟨':', ['8', '0'], ⟨⟨"http://", by decide, behind⟩, solid⟩, by decide⟩

end ThemeEditor.Input
