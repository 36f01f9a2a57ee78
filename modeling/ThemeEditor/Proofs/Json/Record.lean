/-
# ThemeEditor.Proofs.Json.Record -- reading a record from its members

A record is described field by field: under each name stand the texts of the
values and what a value does to the record (`Described`).  A record's object lists
members in any order; no name comes twice and no field is missing that an object
has to hold (`Grammar.record`).  A layout reads that grammar as soon as each of
its fields reads its description (`reads_record`).
-/
import Mathlib.Data.List.Forall2
import ThemeEditor.Proofs.Json.Reading

namespace ThemeEditor.Json

set_option autoImplicit false

variable {σ : Type}

/-- By name, the texts of a field's values and what each value does to the record. -/
abbrev Described (σ : Type) := List (String × Grammar (σ → σ))

/-- The texts of the values of the field with a name. -/
def Described.value (fields : Described σ) (name : String) : Grammar (σ → σ) := fun t f =>
  ∃ g, fields.lookup name = some g ∧ g t f

/-- The field reads the texts of its description, whatever was read before. -/
structure Field.Reads (field : Field σ) (described : String × Grammar (σ → σ)) : Prop where
  name : field.name = described.1
  read : ∀ record, Json.Reads (field.read record) (described.2.map fun f => f record)

theorem Field.reads_of {α : Type} {reader : Reader α} {g : Grammar α} (base : Json.Reads reader g)
    (name : String) (put : α → σ → σ) (inObject inList : Bool) :
    (Field.of name reader put inObject inList).Reads (name, g.map put) where
  name := rfl
  read record := {
    starts := by
      rintro t _ ⟨_, ⟨a, holds, rfl⟩, rfl⟩
      exact base.starts holds
    reads := by
      rintro ws t rest _ blank ⟨_, ⟨a, holds, rfl⟩, rfl⟩ ends
      simp only [Field.of, base.reads blank holds ends] }

theorem colon_blank {ws : List Char} (blank : Blank ws) (r : List Char) :
    colon (ws ++ ':' :: r) = .ok r := by
  simp [colon, skipSpace_to blank (c := ':') rfl]

/-- A colon and a value behind it. -/
theorem valued_colon {α : Type} {reader : Reader α} {g : Grammar α} (base : Reads reader g)
    {ws ws' t r : List Char} {a : α} (blank : Blank ws) (blank' : Blank ws') (holds : g t a)
    (ends : Ends r) : valued reader (ws ++ ':' :: (ws' ++ (t ++ r))) = .ok (a, r) := by
  simp only [valued, colon_blank blank, base.reads blank' holds ends]

namespace Layout

/-- What a member does: a name that was met before is refused. -/
def take (st : List String × σ) (m : String × (σ → σ)) : Option (List String × σ) :=
  if m.1 ∈ st.1 then none else some (m.1 :: st.1, m.2 st.2)

theorem field?_of_lookup {layout : Layout σ} {fields : Described σ}
    (described : List.Forall₂ Field.Reads layout.fields fields) {name : String}
    {g : Grammar (σ → σ)} (found : fields.lookup name = some g) :
    ∃ field, layout.field? name = some field ∧ field.Reads (name, g) := by
  unfold field?
  generalize layout.fields = declared at described
  induction described with
  | nil => simp at found
  | @cons field d _ _ reads _ ih =>
      rw [List.lookup_cons] at found
      by_cases same : name = d.1
      · simp only [same, beq_self_eq_true, Option.some.injEq] at found
        refine ⟨field, ?_, ?_⟩
        · simp [reads.name, same]
        · rw [same, ← found]
          exact reads
      · have other : (name == d.1) = false := by simpa using same
        simp only [other] at found
        have skipped : decide (field.name = name) = false := by
          simpa [reads.name] using fun h => same h.symm
        simpa [List.find?_cons, skipped] using ih found

/-- The members of described fields are read one by one. -/
theorem takes_member {layout : Layout σ} {fields : Described σ}
    (described : List.Forall₂ Field.Reads layout.fields fields) :
    Takes layout.member fields.value take := by
  rintro ⟨names, record⟩ key f st' ws ws' t r stepped ⟨g, found, holds⟩ blank blank' ends
  obtain ⟨field, isField, reads⟩ := field?_of_lookup described found
  by_cases met : key ∈ names
  · simp [take, met] at stepped
  · simp only [take, met, if_false, Option.some.injEq] at stepped
    have value := valued_colon (reads.read record) blank blank' ⟨f, holds, rfl⟩ ends
    simp only [member, isField, met, if_false, value, stepped]

/-- Members with distinct names are all taken, in order. -/
theorem foldlM_take : ∀ (ms : List (String × (σ → σ))) (names : List String) (record : σ),
    (ms.map (·.1)).Nodup → (∀ m ∈ ms, m.1 ∉ names) →
      ms.foldlM take (names, record) =
        some ((ms.map (·.1)).reverse ++ names, ms.foldl (fun record m => m.2 record) record)
  | [], names, record, _, _ => rfl
  | m :: ms, names, record, distinct, fresh => by
      rw [List.map_cons, List.nodup_cons] at distinct
      have notMet : m.1 ∉ names := fresh m List.mem_cons_self
      have fresh' : ∀ m' ∈ ms, m'.1 ∉ m.1 :: names := by
        intro m' member met
        rcases List.mem_cons.1 met with same | met
        · exact distinct.1 (same ▸ List.mem_map_of_mem member)
        · exact fresh m' (List.mem_cons_of_mem m member) met
      rw [List.foldlM_cons]
      simp only [take, notMet, if_false, Option.bind_eq_bind, Option.bind_some]
      rw [foldlM_take ms _ _ distinct.2 fresh']
      simp

end Layout

/-- A record as an object: described members in any order, none of them twice, among
them every field that the object has to hold. -/
def Grammar.record (layout : Layout σ) (fields : Described σ) (start : σ) : Grammar σ :=
  fun t record => ∃ ms, Grammar.object fields.value t ms ∧ (ms.map (·.1)).Nodup ∧
    (∀ field ∈ layout.fields, field.inObject = true → field.name ∈ ms.map (·.1)) ∧
    ms.foldl (fun record m => m.2 record) start = record

/-- A layout reads the objects of its record. -/
theorem reads_record {layout : Layout σ} {fields : Described σ}
    (described : List.Forall₂ Field.Reads layout.fields fields) (start : σ) :
    Reads (layout.read start) (Grammar.record layout fields start) where
  starts := by
    rintro t record ⟨ms, holds, -⟩
    obtain ⟨u, rfl⟩ := holds.starts
    exact ⟨'{', u, rfl, rfl, by decide⟩
  reads := by
    rintro ws t rest _ blank ⟨ms, holds, distinct, complete, rfl⟩ -
    have taken := Layout.foldlM_take ms [] start distinct (by simp)
    obtain ⟨u, same, read⟩ :=
      membersFrom_object (Layout.takes_member described) holds taken rest
    have nothingMissing : layout.missing? ((ms.map (·.1)).reverse ++ []) = none := by
      simpa [Layout.missing?] using complete
    rw [same, Layout.read, skipSpace_to blank rfl]
    simp only [Layout.fromMembers, read, nothingMissing]
    rfl

end ThemeEditor.Json
