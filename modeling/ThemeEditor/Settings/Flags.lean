/-
# ThemeEditor.Settings.Flags -- feature flags by name

Flags are kept in ascending order of their names, each name once, so two sets of
flags with the same assignment are the same value and are written alike.
-/
namespace ThemeEditor

set_option autoImplicit false

/-- Switches by name, in ascending order of the names. -/
structure Flags where
  entries : List (String × Bool)
  ordered : entries.Pairwise fun a b => a.1 < b.1
  deriving DecidableEq, Repr

namespace Flags

/-- No flag at all. -/
def empty : Flags :=
  ⟨[], .nil⟩

instance : Inhabited Flags := ⟨empty⟩

/-- Puts an entry at its place in an ascending list, over an entry of that name. -/
def insertEntry (name : String) (on : Bool) : List (String × Bool) → List (String × Bool)
  | [] => [(name, on)]
  | e :: rest =>
      if name < e.1 then (name, on) :: e :: rest
      else if name = e.1 then (name, on) :: rest
      else e :: insertEntry name on rest

theorem lt_of_not_lt_of_ne {a b : String} (notLt : ¬ a < b) (ne : a ≠ b) : b < a :=
  Decidable.byContradiction fun h =>
    ne (String.le_antisymm (String.not_lt.1 h) (String.not_lt.1 notLt))

theorem mem_insertEntry {name : String} {on : Bool} {e : String × Bool} :
    ∀ {entries : List (String × Bool)}, e ∈ insertEntry name on entries →
      e = (name, on) ∨ e ∈ entries
  | [], h => by simpa [insertEntry] using h
  | d :: rest, h => by
      simp only [insertEntry] at h
      split at h
      · simpa using h
      · split at h
        · rcases List.mem_cons.1 h with h | h
          · exact .inl h
          · exact .inr (List.mem_cons_of_mem _ h)
        · rcases List.mem_cons.1 h with h | h
          · exact .inr (h ▸ List.mem_cons_self)
          · exact (mem_insertEntry h).imp_right (List.mem_cons_of_mem _)

theorem insertEntry_ordered (name : String) (on : Bool) :
    ∀ {entries : List (String × Bool)}, entries.Pairwise (fun a b => a.1 < b.1) →
      (insertEntry name on entries).Pairwise fun a b => a.1 < b.1
  | [], _ => by simp [insertEntry]
  | e :: rest, h => by
      obtain ⟨above, sorted⟩ := List.pairwise_cons.1 h
      simp only [insertEntry]
      split
      · rename_i lt
        refine List.pairwise_cons.2 ⟨fun d member => ?_, h⟩
        rcases List.mem_cons.1 member with rfl | member
        · exact lt
        · exact String.lt_trans lt (above d member)
      · rename_i notLt
        split
        · rename_i same
          exact List.pairwise_cons.2 ⟨fun d member => same ▸ above d member, sorted⟩
        · rename_i ne
          refine List.pairwise_cons.2 ⟨fun d member => ?_, insertEntry_ordered name on sorted⟩
          rcases mem_insertEntry member with rfl | member
          · exact lt_of_not_lt_of_ne notLt ne
          · exact above d member

/-- The flags with one of them set. -/
def insert (flags : Flags) (name : String) (on : Bool) : Flags :=
  ⟨insertEntry name on flags.entries, insertEntry_ordered name on flags.ordered⟩

/-- The value of a flag that was set. -/
def get? (flags : Flags) (name : String) : Option Bool :=
  (flags.entries.find? fun e => e.1 = name).map (·.2)

/-- Whether a flag is on.  A flag that was never set is off. -/
def isOn (flags : Flags) (name : String) : Bool :=
  (flags.get? name).getD false

def size (flags : Flags) : Nat :=
  flags.entries.length

end Flags

end ThemeEditor
