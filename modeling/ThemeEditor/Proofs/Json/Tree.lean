/-
# ThemeEditor.Proofs.Json.Tree -- any value that is written is read back

`Grammar.value` says which characters stand for a value whose lists and objects nest
at most so deep; numbers apart, the reader of any value reads them (`reads_tree`).
Of members with one key the last one counts, so an object comes back as it was
written if its keys are different (`Value.Nested`, `Value.decode_write`).
-/
import ThemeEditor.Json.Tree
import ThemeEditor.Proofs.Json.Record
import ThemeEditor.Proofs.Json.Writing

namespace ThemeEditor.Json

set_option autoImplicit false

/-! ## Texts of values -/

namespace Value

/-- One member after the other. -/
def take (members : List (String × Value)) (m : String × Value) : Option (List (String × Value)) :=
  some (putMember m.1 m.2 members)

theorem putMember_fresh {key : String} (value : Value) : ∀ {members : List (String × Value)},
    key ∉ members.map (·.1) → putMember key value members = members ++ [(key, value)]
  | [], _ => rfl
  | (k, v) :: rest, fresh => by
      rw [List.map_cons, List.mem_cons, not_or] at fresh
      have ne : k ≠ key := Ne.symm fresh.1
      rw [putMember, if_neg ne, putMember_fresh value fresh.2]
      rfl

/-- Members with different keys go behind each other. -/
theorem foldlM_take : ∀ (added members : List (String × Value)),
    ((members ++ added).map (·.1)).Nodup → added.foldlM take members = some (members ++ added)
  | [], members, _ => by
      rw [List.append_nil]
      rfl
  | (key, value) :: added, members, distinct => by
      have fresh : key ∉ members.map (·.1) := by
        rw [List.map_append, List.nodup_append] at distinct
        intro among
        exact distinct.2.2 key among key (by simp) rfl
      have once : take members (key, value) = some (members ++ [(key, value)]) :=
        congrArg some (putMember_fresh value fresh)
      rw [List.foldlM_cons, once, Option.bind_eq_bind, Option.bind_some,
        foldlM_take added (members ++ [(key, value)]) (by simpa using distinct)]
      simp

end Value

namespace Grammar

/-- `null`, a boolean or a text. -/
inductive Scalar : Grammar Value where
  | null : Scalar ['n', 'u', 'l', 'l'] .null
  | boolean {t : List Char} {b : Bool} (holds : Grammar.boolean t b) : Scalar t (.boolean b)
  | text {t : List Char} {s : String} (holds : Grammar.text t s) : Scalar t (.text s)

/-- A list or an object of values of one grammar. -/
inductive Compound (item : Grammar Value) : Grammar Value where
  | list {t : List Char} {vs : List Value} (holds : Grammar.list item t vs) :
      Compound item t (.list vs)
  | object {t : List Char} {ms : List (String × Value)}
      (holds : Grammar.folded (fun _ => item) Value.take [] t ms) : Compound item t (.object ms)

/-- A value without numbers whose lists and objects nest at most so deep. -/
def value : Nat → Grammar Value
  | 0 => Scalar
  | depth + 1 => fun t v => Scalar t v ∨ Compound (value depth) t v

theorem Scalar.value {t : List Char} {v : Value} (scalar : Scalar t v) (depth : Nat) :
    Grammar.value depth t v := by
  cases depth with
  | zero => exact scalar
  | succ depth => exact .inl scalar

end Grammar

/-! ## Reading -/

theorem tree_scalar (depth : Nat) {ws t rest : List Char} {v : Value} (blank : Blank ws)
    (scalar : Grammar.Scalar t v) : tree depth (ws ++ (t ++ rest)) = .ok (v, rest) := by
  cases scalar with
  | null =>
      rw [tree, List.cons_append, skipSpace_to blank rfl]
      rfl
  | @boolean _ b holds =>
      subst holds
      cases b
      · rw [tree, if_neg (by decide), List.cons_append, skipSpace_to blank rfl]
        rfl
      · rw [tree, if_pos rfl, List.cons_append, skipSpace_to blank rfl]
        rfl
  | text holds =>
      obtain ⟨body, spelled, rfl⟩ := holds
      rw [tree, List.cons_append, skipSpace_to blank rfl]
      simp [isDigit, textBody_spelled spelled rest, Except.map]

theorem takes_member {depth : Nat} {g : Grammar Value} (base : Reads (tree depth) g) :
    Takes (tree.member (tree depth)) (fun _ => g) Value.take := by
  rintro members key value _ ws ws' t r ⟨⟩ holds blank blank' ends
  simp only [tree.member, valued_colon base blank blank' holds ends]

theorem tree_compound {depth : Nat} {g : Grammar Value} (base : Reads (tree depth) g)
    {ws t rest : List Char} {v : Value} (blank : Blank ws) (compound : Grammar.Compound g t v)
    (ends : Ends rest) : tree (depth + 1) (ws ++ (t ++ rest)) = .ok (v, rest) := by
  cases compound with
  | @list _ vs holds =>
      have read := (reads_list base).reads blank holds ends
      obtain ⟨u, rfl⟩ := holds.starts
      rw [list, List.cons_append, skipSpace_to blank rfl] at read
      rw [tree, List.cons_append, skipSpace_to blank rfl]
      have items : itemsFrom (tree depth) ((u ++ rest).length + 1) true (u ++ rest) =
          .ok (vs, rest) := read
      rw [List.length_append] at items
      simp [isDigit, items, Except.map]
  | object holds =>
      obtain ⟨ms, members, taken⟩ := holds
      obtain ⟨u, same, read⟩ := membersFrom_object (takes_member base) members taken rest
      rw [same, tree, skipSpace_to blank rfl]
      simp [isDigit, read, Except.map]

theorem Grammar.Scalar.starts {t : List Char} {v : Value} (scalar : Grammar.Scalar t v) :
    ∃ c u, t = c :: u ∧ isSpace c = false ∧ c ≠ ']' := by
  cases scalar with
  | null => exact ⟨'n', _, rfl, rfl, by decide⟩
  | boolean holds => exact reads_boolean.starts holds
  | text holds => exact reads_text.starts holds

theorem Grammar.Compound.starts {g : Grammar Value} {t : List Char} {v : Value}
    (compound : Grammar.Compound g t v) : ∃ c u, t = c :: u ∧ isSpace c = false ∧ c ≠ ']' := by
  cases compound with
  | list holds =>
      obtain ⟨u, rfl⟩ := holds.starts
      exact ⟨'[', u, rfl, rfl, by decide⟩
  | object holds =>
      obtain ⟨ms, members, -⟩ := holds
      obtain ⟨u, rfl⟩ := members.starts
      exact ⟨'{', u, rfl, rfl, by decide⟩

/-- The reader of any value reads what nests as deep as it allows. -/
theorem reads_tree : ∀ depth : Nat, Reads (tree depth) (Grammar.value depth)
  | 0 => {
      starts := fun scalar => Grammar.Scalar.starts scalar
      reads := fun blank scalar _ => tree_scalar 0 blank scalar }
  | depth + 1 => {
      starts := by
        rintro t v (scalar | compound)
        · exact scalar.starts
        · exact compound.starts
      reads := by
        rintro ws t rest v blank (scalar | compound) ends
        · exact tree_scalar (depth + 1) blank scalar
        · exact tree_compound (reads_tree depth) blank compound ends }

/-! ## Writing -/

namespace Value

/-- A value without numbers, of lists and of objects with different keys that nest at most so
deep. -/
inductive Nested : Nat → Value → Prop where
  | null (depth : Nat) : Nested depth .null
  | boolean (depth : Nat) (b : Bool) : Nested depth (.boolean b)
  | text (depth : Nat) (s : String) : Nested depth (.text s)
  | list {depth : Nat} {vs : List Value} (items : ∀ v ∈ vs, Nested depth v) :
      Nested (depth + 1) (.list vs)
  | object {depth : Nat} {ms : List (String × Value)} (distinct : (ms.map (·.1)).Nodup)
      (values : ∀ m ∈ ms, Nested depth m.2) : Nested (depth + 1) (.object ms)

variable {style : Style}

/-- A value is written as a text that stands for it. -/
theorem Nested.writes (spaced : style.Spaced) {depth : Nat} {v : Value} (nested : v.Nested depth) :
    Writes style (Grammar.value depth) v v := by
  induction nested with
  | null depth =>
      intro level
      rw [write]
      exact Grammar.Scalar.null.value depth
  | boolean depth b => exact fun level => (Grammar.Scalar.boolean (writes_boolean b level)).value depth
  | text depth s => exact fun level => (Grammar.Scalar.text (writes_text s level)).value depth
  | list items ih =>
      intro level
      exact .inr (.list (writes_list spaced (List.forall₂_same.2 ih) level))
  | @object depth ms distinct values ih =>
      intro level
      have members : List.Forall₂ (WritesMember style fun _ => Grammar.value depth) ms ms :=
        List.forall₂_same.2 fun m among => ⟨rfl, ih m among⟩
      exact .inr (.object ⟨ms, writes_object spaced members level, foldlM_take ms [] distinct⟩)

/-- **Reading a text as any value undoes writing.** -/
theorem decode_write (spaced : style.Spaced) {v : Value} (nested : v.Nested 127) :
    decode (String.ofList (v.write style 0)) = .ok v :=
  document_eq (reads_tree 127) (nested.writes spaced 0)

theorem decode_indented {v : Value} (nested : v.Nested 127) : decode v.indented = .ok v :=
  decode_write Style.spaced_indented nested

end Value

end ThemeEditor.Json
