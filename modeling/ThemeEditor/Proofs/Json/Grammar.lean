/-
# ThemeEditor.Proofs.Json.Grammar -- which characters stand for a value

A `Grammar α` relates characters to the values of `α` that they stand for, with
no white space around them.  It is the declarative side of reading and of
writing: a reader `Reads` a grammar when it gets the value of every text of it,
and a written value is one text of the grammar of its type.

* a text is a sequence of spellings between quotation marks (`Spelled`): a plain
  character, a short escape, one 16-bit unit, or a lead with its trail;
* a list and an object are items with commas between them (`Items`), each with
  any white space around it, and an object's items are members (`Grammar.member`).

Nothing here mentions how deep a reader looks ahead or how much fuel it gets.
-/
import ThemeEditor.Json.Reader

namespace ThemeEditor.Json

set_option autoImplicit false

/-- The characters that stand for each value of a type. -/
abbrev Grammar (α : Type) := List Char → α → Prop

/-- White space and nothing else. -/
def Blank (ws : List Char) : Prop :=
  ∀ c ∈ ws, isSpace c = true

/-- What may follow a value: nothing, white space, a comma or a closing bracket. -/
def Ends (rest : List Char) : Prop :=
  ∀ c ∈ rest.head?, isSpace c = true ∨ c = ',' ∨ c = ']' ∨ c = '}'

/-! ## Texts -/

/-- The characters that stand for one character of a text. -/
inductive Spelling : List Char → Char → Prop where
  | plain {c : Char} (notQuote : c ≠ '"') (notEscape : c ≠ '\\') (printed : ¬ c < ' ') :
      Spelling [c] c
  | short {c e : Char} (known : shortEscape? c = some e) : Spelling ['\\', c] e
  | unit {a b c d : Char} {n : Nat} (code : hexCode? a b c d = some n)
      (notLead : isLead n = false) (notTrail : isTrail n = false) :
      Spelling ['\\', 'u', a, b, c, d] (Char.ofNat n)
  | pair {a b c d a' b' c' d' : Char} {lead trail : Nat}
      (leadCode : hexCode? a b c d = some lead) (trailCode : hexCode? a' b' c' d' = some trail)
      (isLead : isLead lead = true) (isTrail : isTrail trail = true) :
      Spelling ['\\', 'u', a, b, c, d, '\\', 'u', a', b', c', d'] (pairedChar lead trail)

/-- The characters that stand for some characters of a text, one after the other. -/
inductive Spelled : List Char → List Char → Prop where
  | nil : Spelled [] []
  | cons {p s cs : List Char} {c : Char} (first : Spelling p c) (rest : Spelled s cs) :
      Spelled (p ++ s) (c :: cs)

namespace Grammar

/-- A text: its spelled characters in quotation marks. -/
def text : Grammar String := fun t s =>
  ∃ body, Spelled body s.toList ∧ t = '"' :: (body ++ ['"'])

def boolean : Grammar Bool := fun t b =>
  t = if b then ['t', 'r', 'u', 'e'] else ['f', 'a', 'l', 's', 'e']

end Grammar

/-! ## Lists and objects -/

/-- At least one item, with commas between the items and white space around each. -/
inductive Items {α : Type} (item : Grammar α) : Grammar (List α) where
  | single {ws t ws' : List Char} {a : α} (before : Blank ws) (holds : item t a)
      (after : Blank ws') : Items item (ws ++ (t ++ ws')) [a]
  | cons {ws t ws' s : List Char} {a : α} {as : List α} (before : Blank ws) (holds : item t a)
      (after : Blank ws') (rest : Items item s as) :
      Items item (ws ++ (t ++ (ws' ++ ',' :: s))) (a :: as)

/-- Items between two brackets, or white space alone between them. -/
inductive Enclosed {α : Type} (left right : Char) (item : Grammar α) : Grammar (List α) where
  | empty {ws : List Char} (blank : Blank ws) :
      Enclosed left right item (left :: (ws ++ [right])) []
  | items {s : List Char} {as : List α} (holds : Items item s as) :
      Enclosed left right item (left :: (s ++ [right])) as

namespace Grammar

variable {α β : Type}

/-- A list of items of one grammar. -/
def list (item : Grammar α) : Grammar (List α) :=
  Enclosed '[' ']' item

/-- A member: a key, a colon, and a value whose grammar may depend on the key. -/
def member (value : String → Grammar β) : Grammar (String × β) := fun t m =>
  ∃ key ws ws' v, Grammar.text key m.1 ∧ Blank ws ∧ Blank ws' ∧ value m.1 v m.2 ∧
    t = key ++ (ws ++ ':' :: (ws' ++ v))

/-- An object, by its members in order. -/
def object (value : String → Grammar β) : Grammar (List (String × β)) :=
  Enclosed '{' '}' (member value)

/-- The texts of a grammar, standing for what `f` makes of their values. -/
def map (f : α → β) (g : Grammar α) : Grammar β := fun t b =>
  ∃ a, g t a ∧ f a = b

end Grammar

/-! ## What it means to read a grammar -/

/-- `reader` reads every text of `grammar`, with white space before it, up to what
follows it.  No text of the grammar starts with white space or closes a list. -/
structure Reads {α : Type} (reader : Reader α) (grammar : Grammar α) : Prop where
  starts : ∀ {t a}, grammar t a → ∃ c u, t = c :: u ∧ isSpace c = false ∧ c ≠ ']'
  reads : ∀ {ws t rest a}, Blank ws → grammar t a → Ends rest →
    reader (ws ++ (t ++ rest)) = .ok (a, rest)

/-! ## White space -/

theorem blank_nil : Blank [] :=
  nofun

theorem ends_nil : Ends [] :=
  nofun

/-- White space before something that ends a value ends it too. -/
theorem ends_append {ws rest : List Char} (blank : Blank ws) (ends : Ends rest) :
    Ends (ws ++ rest) := by
  cases ws with
  | nil => exact ends
  | cons c ws =>
      intro d first
      cases first
      exact .inl (blank c (by simp))

theorem ends_comma (s : List Char) : Ends (',' :: s) := by
  intro c first
  cases first
  exact .inr (.inl rfl)

theorem ends_bracket (s : List Char) : Ends (']' :: s) := by
  intro c first
  cases first
  exact .inr (.inr (.inl rfl))

theorem ends_brace (s : List Char) : Ends ('}' :: s) := by
  intro c first
  cases first
  exact .inr (.inr (.inr rfl))

theorem skipSpace_blank {ws : List Char} (blank : Blank ws) (s : List Char) :
    skipSpace (ws ++ s) = skipSpace s :=
  List.dropWhile_append_of_pos blank

theorem skipSpace_cons {c : Char} (notSpace : isSpace c = false) (s : List Char) :
    skipSpace (c :: s) = c :: s :=
  List.dropWhile_cons_of_neg (by simp [notSpace])

/-- White space is skipped up to the first other character. -/
theorem skipSpace_to {ws : List Char} {c : Char} (blank : Blank ws) (notSpace : isSpace c = false)
    (s : List Char) : skipSpace (ws ++ c :: s) = c :: s := by
  rw [skipSpace_blank blank, skipSpace_cons notSpace]

theorem skipSpace_all {ws : List Char} (blank : Blank ws) : skipSpace ws = [] := by
  rw [← List.append_nil ws, skipSpace_blank blank]
  rfl

end ThemeEditor.Json
