/-
# ThemeEditor.Proofs.Settings.Flags -- flags as an assignment

Flags are told apart by the value that each name has (`ext_get?`): they are in
order, so there is one way to keep an assignment.  Setting a flag changes the
value of its name and of no other (`get?_insert`).  Of flags that are set one
after the other, the last one with a name decides (`get?_assigned`).
-/
import Mathlib.Data.List.Induction
import Mathlib.Data.List.Sort
import ThemeEditor.Settings.Flags

namespace ThemeEditor.Flags

set_option autoImplicit false

theorem find?_insertEntry (name : String) (on : Bool) (other : String) :
    ∀ entries : List (String × Bool),
      ((insertEntry name on entries).find? fun e => e.1 = other).map (·.2) =
        if other = name then some on else (entries.find? fun e => e.1 = other).map (·.2)
  | [] => by
      by_cases same : other = name <;> simp [insertEntry, same, eq_comm]
  | e :: rest => by
      have ih := find?_insertEntry name on other rest
      unfold insertEntry
      by_cases same : other = name
      · subst same
        split
        · simp
        · split
          · simp
          · next ne => simpa [ne, Ne.symm ne] using ih
      · have ne : name ≠ other := fun h => same h.symm
        rw [if_neg same] at ih ⊢
        split
        · simp [ne]
        · split
          · next isName =>
            have ne' : e.1 ≠ other := isName ▸ ne
            simp [ne, ne']
          · by_cases here : e.1 = other
            · simp [here]
            · simpa [here] using ih

/-- Setting a flag changes its value and that of no other flag. -/
theorem get?_insert (flags : Flags) (name : String) (on : Bool) (other : String) :
    (flags.insert name on).get? other = if other = name then some on else flags.get? other :=
  find?_insertEntry name on other flags.entries

/-- A name has a value exactly when there is an entry that says so. -/
theorem get?_eq_some {flags : Flags} {name : String} {on : Bool} :
    flags.get? name = some on ↔ (name, on) ∈ flags.entries := by
  have ordered := flags.ordered
  unfold get?
  generalize flags.entries = entries at ordered
  induction entries with
  | nil => simp
  | cons e rest ih =>
      obtain ⟨above, sorted⟩ := List.pairwise_cons.1 ordered
      by_cases here : e.1 = name
      · subst here
        have notBelow : (e.1, on) ∉ rest := fun member =>
          String.lt_irrefl _ (above (e.1, on) member)
        have same : (e.1, on) = e ↔ e.2 = on := by
          rw [Prod.ext_iff]
          simp [eq_comm]
        simp [notBelow, same]
      · have other : (name, on) ≠ e := by
          rintro rfl
          exact here rfl
        simpa [here, other] using ih sorted

/-- Flags with the same assignment are the same. -/
theorem ext_get? {a b : Flags} (same : ∀ name, a.get? name = b.get? name) : a = b := by
  have entries : a.entries = b.entries := by
    have : Std.Antisymm fun e d : String × Bool => e.1 < d.1 :=
      ⟨fun e d lt gt => absurd gt (String.lt_asymm lt)⟩
    have : Std.Irrefl fun e d : String × Bool => e.1 < d.1 := ⟨fun e => String.lt_irrefl e.1⟩
    refine a.ordered.eq_of_mem_iff b.ordered ?_
    rintro ⟨name, on⟩
    rw [← get?_eq_some, ← get?_eq_some, same]
  cases a
  cases b
  cases entries
  rfl

/-- Flags set one after the other. -/
def assigned (ms : List (String × Bool)) : Flags :=
  ms.foldl (fun flags m => flags.insert m.1 m.2) .empty

/-- The last setting of a name decides its value. -/
theorem get?_assigned (ms : List (String × Bool)) (name : String) :
    (assigned ms).get? name = ms.reverse.lookup name := by
  induction ms using List.reverseRecOn with
  | nil => rfl
  | append_singleton ms m ih =>
      rw [assigned, List.foldl_append, List.foldl_cons, List.foldl_nil, ← assigned, get?_insert,
        List.reverse_append, List.reverse_singleton, List.singleton_append, List.lookup_cons, ih]
      by_cases same : name = m.1
      · simp [same]
      · have other : (name == m.1) = false := by simpa using same
        rw [if_neg same, other]

end ThemeEditor.Flags
