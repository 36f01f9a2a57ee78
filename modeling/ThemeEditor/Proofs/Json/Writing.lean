/-
# ThemeEditor.Proofs.Json.Writing -- what is written belongs to its grammar

A value is written in a style, and all that a style adds is white space
(`Style.Spaced`).  So both styles write texts of the same grammars: every
character is written as a spelling of itself (`spelling_writtenChar`), and lists
and objects are written as their items, in order.
-/
import Mathlib.Data.List.Forall2
import ThemeEditor.Json.Value
import ThemeEditor.Proofs.Json.Grammar

namespace ThemeEditor.Json

set_option autoImplicit false

/-- The style adds nothing but white space. -/
structure Style.Spaced (style : Style) : Prop where
  lineBreak : ∀ depth, Blank (style.lineBreak depth)
  afterColon : Blank style.afterColon

theorem Style.spaced_compact : Style.compact.Spaced where
  lineBreak _ := blank_nil
  afterColon := blank_nil

theorem Style.spaced_indented : Style.indented.Spaced where
  lineBreak depth := by
    intro c member
    rcases List.mem_cons.1 member with rfl | member
    · rfl
    · rw [List.eq_of_mem_replicate member]
      rfl
  afterColon := by
    intro c member
    rw [List.mem_singleton.1 member]
    rfl

/-! ## Texts -/

/-- The two last digits of a control character's code are its code. -/
theorem hexCode?_control : ∀ n < 32,
    hexCode? '0' '0' (Nat.digitChar (n / 16)) (Nat.digitChar (n % 16)) = some n := by
  decide

/-- Every character is written as a spelling of itself. -/
theorem spelling_writtenChar (c : Char) : Spelling (writtenChar c) c := by
  unfold writtenChar
  -- the seven characters with an escape of one letter
  iterate 7
    split
    · next same => exact .short (by simp [same, shortEscape?])
  split
  · next control =>
    have small : c.toNat < 32 := control
    have noSurrogate : isLead c.toNat = false ∧ isTrail c.toNat = false := by
      simp only [isLead, isTrail, Bool.and_eq_false_iff, decide_eq_false_iff_not]
      omega
    have unit := Spelling.unit (hexCode?_control c.toNat small) noSurrogate.1 noSurrogate.2
    rwa [Char.ofNat_toNat] at unit
  · next notQuote notEscape _ _ _ _ _ printed => exact .plain notQuote notEscape printed

theorem spelled_flatMap : ∀ cs : List Char, Spelled (cs.flatMap writtenChar) cs
  | [] => .nil
  | c :: cs => by
      rw [List.flatMap_cons]
      exact .cons (spelling_writtenChar c) (spelled_flatMap cs)

theorem text_writtenText (s : String) : Grammar.text (writtenText s) s :=
  ⟨_, spelled_flatMap s.toList, rfl⟩

/-! ## Values -/

/-- `v` is written as a text of `g` that stands for `a`. -/
def Writes {α : Type} (style : Style) (g : Grammar α) (v : Value) (a : α) : Prop :=
  ∀ depth, g (v.write style depth) a

variable {α β : Type} {style : Style}

theorem writes_text (s : String) : Writes style Grammar.text (.text s) s := by
  intro depth
  rw [Value.write]
  exact text_writtenText s

theorem writes_boolean (b : Bool) : Writes style Grammar.boolean (.boolean b) b := by
  intro depth
  cases b <;> simp [Value.write, Grammar.boolean]

theorem Writes.map {g : Grammar α} {v : Value} {a : α} (written : Writes style g v a)
    (f : α → β) : Writes style (g.map f) v (f a) :=
  fun depth => ⟨a, written depth, rfl⟩

theorem writeItems_eq_flatMap (depth : Nat) : ∀ vs : List Value,
    Value.writeItems style depth vs =
      vs.flatMap fun v => ',' :: (style.lineBreak depth ++ v.write style depth)
  | [] => by simp [Value.writeItems]
  | v :: vs => by simp [Value.writeItems, writeItems_eq_flatMap depth vs]

/-- The characters of a member at a depth. -/
def writtenMember (style : Style) (depth : Nat) (v : String × Value) : List Char :=
  writtenText v.1 ++ ':' :: (style.afterColon ++ v.2.write style depth)

theorem writeMembers_eq_flatMap (depth : Nat) : ∀ vs : List (String × Value),
    Value.writeMembers style depth vs =
      vs.flatMap fun v => ',' :: (style.lineBreak depth ++ writtenMember style depth v)
  | [] => by simp [Value.writeMembers]
  | (k, v) :: vs => by
      simp [Value.writeMembers, writtenMember, writeMembers_eq_flatMap depth vs]

/-- Written one after the other, with a comma and a line break before each but the
first, texts of one grammar are items. -/
theorem items_flatMap {ν : Type} {g : Grammar α} {write : ν → List Char}
    {before after gap : List Char} (blank : Blank before) (blank' : Blank after)
    (blankGap : Blank gap) {v : ν} {a : α} {vs : List ν} {as : List α} (holds : g (write v) a)
    (others : List.Forall₂ (fun v a => g (write v) a) vs as) :
    Items g (before ++ (write v ++ (vs.flatMap (fun v => ',' :: (gap ++ write v)) ++ after)))
      (a :: as) := by
  induction others generalizing before v a with
  | nil => simpa using Items.single blank holds blank'
  | cons next _ ih =>
      have items := Items.cons blank holds blank_nil (ih blankGap next)
      simpa using items

/-- A list is written as its items. -/
theorem writes_list (spaced : style.Spaced) {g : Grammar α} {vs : List Value} {as : List α}
    (written : List.Forall₂ (Writes style g) vs as) :
    Writes style (Grammar.list g) (.list vs) as := by
  intro depth
  cases written with
  | nil =>
      rw [Value.write]
      exact .empty blank_nil
  | cons first others =>
      have items := items_flatMap (spaced.lineBreak (depth + 1)) (spaced.lineBreak depth)
        (spaced.lineBreak (depth + 1)) (first (depth + 1)) (others.imp fun _ _ w => w (depth + 1))
      simpa [Value.write, writeItems_eq_flatMap, Grammar.list] using Enclosed.items items

/-- A member is written as its key, a colon and its value. -/
def WritesMember (style : Style) (value : String → Grammar β) (v : String × Value)
    (m : String × β) : Prop :=
  v.1 = m.1 ∧ Writes style (value m.1) v.2 m.2

theorem WritesMember.holds (spaced : style.Spaced) {value : String → Grammar β}
    {v : String × Value} {m : String × β} (written : WritesMember style value v m) (depth : Nat) :
    Grammar.member value (writtenMember style depth v) m :=
  ⟨_, [], style.afterColon, _, written.1 ▸ text_writtenText v.1, blank_nil, spaced.afterColon,
    written.2 depth, rfl⟩

/-- An object is written as its members. -/
theorem writes_object (spaced : style.Spaced) {value : String → Grammar β}
    {vs : List (String × Value)} {ms : List (String × β)}
    (written : List.Forall₂ (WritesMember style value) vs ms) :
    Writes style (Grammar.object value) (.object vs) ms := by
  intro depth
  cases written with
  | nil =>
      rw [Value.write]
      exact .empty blank_nil
  | cons first others =>
      have items := items_flatMap (spaced.lineBreak (depth + 1)) (spaced.lineBreak depth)
        (spaced.lineBreak (depth + 1)) (first.holds spaced (depth + 1))
        (others.imp fun _ _ w => w.holds spaced (depth + 1))
      have enclosed : Grammar.object value _ _ := Enclosed.items items
      simpa [Value.write, writeMembers_eq_flatMap, writtenMember] using enclosed

end ThemeEditor.Json
