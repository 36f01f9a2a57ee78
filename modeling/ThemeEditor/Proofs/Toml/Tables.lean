/-
# ThemeEditor.Proofs.Toml.Tables -- what a document can hold

A document has no nulls, and in each of its tables no key stands twice (`IsValue`,
`isValue_of_read`).

Keys come into a table in two ways.  A new one is added where it was not found, and
the node under an old one is replaced.  Both keep the keys distinct (`Tidy.append`,
`Tidy.replace`), so everything that is done at the end of a path does
(`Tidy.reach`).  When numbers get their values the members of a table are only
brought into order.
-/
import Mathlib.Data.List.Nodup
import ThemeEditor.Toml.Document

namespace ThemeEditor

set_option autoImplicit false

/-- What succeeds in two steps succeeds in both. -/
theorem bind_eq_ok {ε α β : Type} {x : Except ε α} {f : α → Except ε β} {b : β} :
    (x >>= f) = .ok b ↔ ∃ a, x = .ok a ∧ f a = .ok b := by
  cases x <;> simp [bind, Except.bind]

theorem map_eq_ok {ε α β : Type} {x : Except ε α} {f : α → β} {b : β} :
    x.map f = .ok b ↔ ∃ a, x = .ok a ∧ f a = b := by
  cases x <;> simp [Except.map]

namespace Toml

open ThemeEditor.Json (Value)

/-! ## Tables that are tidy -/

/-- The values of a document: none of them is null, and the keys of a table are distinct. -/
inductive IsValue : Value → Prop where
  | boolean (b : Bool) : IsValue (.boolean b)
  | number (n : Json.Number) : IsValue (.number n)
  | text (t : String) : IsValue (.text t)
  | list {xs : List Value} (items : ∀ x ∈ xs, IsValue x) : IsValue (.list xs)
  | object {ms : List (String × Value)} (distinct : (ms.map Prod.fst).Nodup)
      (members : ∀ m ∈ ms, IsValue m.2) : IsValue (.object ms)

/-- The same of values as they are written. -/
inductive IsItem : Item → Prop where
  | text (t : String) : IsItem (.text t)
  | scalar (s : Scalar) : IsItem (.scalar s)
  | list {xs : List Item} (items : ∀ x ∈ xs, IsItem x) : IsItem (.list xs)
  | table {ms : List (String × Item)} (distinct : (ms.map Prod.fst).Nodup)
      (members : ∀ m ∈ ms, IsItem m.2) : IsItem (.table ms)

/-- The same of tables while they are built. -/
inductive IsNode : Node → Prop where
  | value {item : Item} (isItem : IsItem item) : IsNode (.value item)
  | table {ms : Members} (isImplied byPoints : Bool) (distinct : (ms.map Prod.fst).Nodup)
      (members : ∀ m ∈ ms, IsNode m.2) : IsNode (.table isImplied byPoints ms)
  | tables {items : List Members} (distinct : ∀ ms ∈ items, (ms.map Prod.fst).Nodup)
      (members : ∀ ms ∈ items, ∀ m ∈ ms, IsNode m.2) : IsNode (.tables items)

/-- Members with distinct keys, at every depth. -/
structure Tidy (ms : Members) : Prop where
  distinct : (ms.map Prod.fst).Nodup
  members : ∀ m ∈ ms, IsNode m.2

section

variable {ms ms' : Members} {key : String} {node : Node}

theorem tidy_nil : Tidy [] :=
  ⟨List.nodup_nil, nofun⟩

theorem Tidy.table (tidy : Tidy ms) (isImplied byPoints : Bool) :
    IsNode (.table isImplied byPoints ms) :=
  .table isImplied byPoints tidy.distinct tidy.members

theorem tidy_of_table {isImplied byPoints : Bool} (isNode : IsNode (.table isImplied byPoints ms)) :
    Tidy ms := by
  cases isNode with
  | table _ _ distinct members => exact ⟨distinct, members⟩

theorem isNode_tables {items : List Members} (tidy : ∀ ms ∈ items, Tidy ms) :
    IsNode (.tables items) :=
  .tables (fun ms member => (tidy ms member).distinct) fun ms member => (tidy ms member).members

theorem tidy_of_tables {items : List Members} (isNode : IsNode (.tables items)) :
    ∀ ms ∈ items, Tidy ms := by
  cases isNode with
  | tables distinct members => exact fun ms member => ⟨distinct ms member, members ms member⟩

/-- What is found stands in the table. -/
theorem Tidy.isNode_of_find (tidy : Tidy ms) (found : Members.find? ms key = some node) :
    IsNode node := by
  obtain ⟨m, here, rfl⟩ := Option.map_eq_some_iff.1 found
  exact tidy.members m (List.mem_of_find?_eq_some here)

/-- A key that is not found is new. -/
theorem Tidy.append (tidy : Tidy ms) (new : Members.find? ms key = none) (isNode : IsNode node) :
    Tidy (ms ++ [(key, node)]) where
  distinct := by
    have absent : key ∉ ms.map Prod.fst := by
      intro member
      obtain ⟨m, inside, same⟩ := List.mem_map.1 member
      have missed := List.find?_eq_none.1 (Option.map_eq_none_iff.1 new) m inside
      exact missed (decide_eq_true same)
    rw [List.map_append, List.map_singleton, ← List.concat_eq_append]
    exact tidy.distinct.concat absent
  members := by
    intro m member
    rcases List.mem_append.1 member with old | new
    · exact tidy.members m old
    · rw [List.mem_singleton.1 new]
      exact isNode

/-- A node that is replaced leaves the keys alone. -/
theorem Tidy.replace (tidy : Tidy ms) (key : String) (isNode : IsNode node) :
    Tidy (Members.replace ms key node) where
  distinct := by
    have keys : (Members.replace ms key node).map Prod.fst = ms.map Prod.fst := by
      rw [Members.replace, List.map_map]
      refine List.map_congr_left fun m _ => ?_
      dsimp only [Function.comp]
      split
      · next same => exact same.symm
      · rfl
    rw [keys]
    exact tidy.distinct
  members := by
    intro m member
    obtain ⟨old, inside, rfl⟩ := List.mem_map.1 member
    split
    · exact isNode
    · exact tidy.members old inside

/-- What is done to the members at the end of a path is done to tidy ones, and if it leaves them
tidy, all are tidy. -/
theorem Tidy.reach {byPoints : Bool} {act : Bool → Members → Option Members}
    (keeps : ∀ isImplied {ms ms'}, Tidy ms → act isImplied ms = some ms' → Tidy ms') :
    ∀ {path : List String} {isImplied : Bool} {ms ms' : Members}, Tidy ms →
      Members.reach byPoints act path isImplied ms = some ms' → Tidy ms'
  | [], _, _, _, tidy, reached => keeps _ tidy reached
  | key :: path, _, ms, ms', tidy, reached => by
      rw [Members.reach] at reached
      split at reached
      · next new =>
        obtain ⟨inner, below, same⟩ := Option.bind_eq_some_iff.1 reached
        cases same
        exact tidy.append new ((Tidy.reach keeps tidy_nil below).table _ _)
      · cases reached
      · next found =>
        have inside := tidy_of_table (tidy.isNode_of_find found)
        split at reached
        · cases reached
        · obtain ⟨inner, below, same⟩ := Option.bind_eq_some_iff.1 reached
          cases same
          exact tidy.replace key ((Tidy.reach keeps inside below).table _ _)
      · cases reached
      · next latest earlier found =>
        have inside := tidy_of_tables (tidy.isNode_of_find found)
        obtain ⟨inner, below, same⟩ := Option.bind_eq_some_iff.1 reached
        cases same
        have changed := Tidy.reach keeps (inside latest List.mem_cons_self) below
        refine tidy.replace key (isNode_tables fun ms member => ?_)
        rcases List.mem_cons.1 member with rfl | old
        · exact changed
        · exact inside ms (List.mem_cons_of_mem _ old)

theorem Tidy.put (tidy : Tidy ms) {path : List String} {item : Item} (isItem : IsItem item)
    (done : Members.put path key item ms = some ms') : Tidy ms' := by
  refine tidy.reach (fun _ ms ms' tidy act => ?_) done
  split at act
  · cases act
  · split at act
    · next new =>
      cases act
      exact tidy.append new (.value isItem)
    · cases act

theorem Tidy.openTable (tidy : Tidy ms) {path : List String}
    (done : Members.openTable path key ms = some ms') : Tidy ms' := by
  refine tidy.reach (fun _ ms ms' tidy act => ?_) done
  split at act
  · next new =>
    cases act
    exact tidy.append new (tidy_nil.table _ _)
  · next found =>
    cases act
    exact tidy.replace key ((tidy_of_table (tidy.isNode_of_find found)).table _ _)
  · cases act

theorem Tidy.openNext (tidy : Tidy ms) {path : List String}
    (done : Members.openNext path key ms = some ms') : Tidy ms' := by
  refine tidy.reach (fun _ ms ms' tidy act => ?_) done
  split at act
  · next new =>
    cases act
    refine tidy.append new (isNode_tables fun ms member => ?_)
    rw [List.mem_singleton.1 member]
    exact tidy_nil
  · next found =>
    cases act
    have inside := tidy_of_tables (tidy.isNode_of_find found)
    refine tidy.replace key (isNode_tables fun ms member => ?_)
    rcases List.mem_cons.1 member with rfl | old
    · exact tidy_nil
    · exact inside ms old
  · cases act

theorem Tidy.putBelow (tidy : Tidy ms) {header path : List String} {item : Item}
    (isItem : IsItem item) (done : Members.putBelow header path key item ms = some ms') :
    Tidy ms' :=
  tidy.reach (fun _ _ _ tidy act => tidy.put isItem act) done

end

/-! ## Tables that are written out -/

theorem membersItems_eq : ∀ ms : Members, membersItems ms = ms.map fun m => (m.1, m.2.item)
  | [] => rfl
  | (k, n) :: rest => by rw [membersItems, membersItems_eq rest, List.map_cons]

theorem tablesItems_eq : ∀ items : List Members,
    tablesItems items = (items.map fun ms => Item.table (membersItems ms)).reverse
  | [] => rfl
  | ms :: rest => by rw [tablesItems, tablesItems_eq rest, List.map_cons, List.reverse_cons]

theorem membersValues_eq : ∀ ms : List (String × Item),
    membersValues ms = ms.map fun m => (m.1, m.2.value)
  | [] => rfl
  | (k, item) :: rest => by rw [membersValues, membersValues_eq rest, List.map_cons]

/-- Members are written out under the same keys. -/
theorem isItem_table {ms : Members} (distinct : (ms.map Prod.fst).Nodup)
    (members : ∀ m ∈ ms, IsItem m.2.item) : IsItem (.table (membersItems ms)) := by
  rw [membersItems_eq]
  refine .table ?_ fun m member => ?_
  · rw [List.map_map]
    exact distinct
  · obtain ⟨node, inside, rfl⟩ := List.mem_map.1 member
    exact members node inside

theorem IsNode.item {node : Node} (isNode : IsNode node) : IsItem node.item := by
  induction isNode with
  | value isItem => exact isItem
  | table isImplied byPoints distinct _ ih => exact isItem_table distinct ih
  | tables distinct _ ih =>
      rw [Node.item, tablesItems_eq]
      refine .list fun x member => ?_
      obtain ⟨ms, inside, rfl⟩ := List.mem_map.1 (List.mem_reverse.1 member)
      exact isItem_table (distinct ms inside) (ih ms inside)

theorem Tidy.items {ms : Members} (tidy : Tidy ms) : IsItem (.table (membersItems ms)) :=
  (tidy.table false false).item

/-! ## Values -/

theorem isValue_of_scalar {s : Scalar} {v : Value} (valued : s.value = .ok v) : IsValue v := by
  cases s with
  | boolean b =>
      cases valued
      exact .boolean b
  | integer base digits =>
      obtain ⟨n, -, rfl⟩ := map_eq_ok.1 valued
      exact .number _
  | floating digits =>
      obtain ⟨d, -, rfl⟩ := map_eq_ok.1 valued
      exact .number _
  | moment t =>
      cases valued
      exact .text _

theorem mem_itemsValues : ∀ {items : List Item} {vs : List Value}, itemsValues items = .ok vs →
    ∀ v ∈ vs, ∃ item ∈ items, item.value = .ok v
  | [], vs, read, v, member => by
      cases read
      cases member
  | item :: rest, vs, read, v, member => by
      rw [itemsValues] at read
      split at read
      · cases read
      · next first =>
        obtain ⟨others, after, rfl⟩ := map_eq_ok.1 read
        rcases List.mem_cons.1 member with rfl | later
        · exact ⟨item, List.mem_cons_self, first⟩
        · obtain ⟨item', inside, valued⟩ := mem_itemsValues after v later
          exact ⟨item', List.mem_cons_of_mem _ inside, valued⟩

theorem eq_of_mapM : ∀ {ms : List (String × Except NumberFault Value)}
    {vs : List (String × Value)}, (ms.mapM fun m => m.2.map fun v => (m.1, v)) = .ok vs →
      ms = vs.map fun v => (v.1, .ok v.2)
  | [], vs, read => by
      rw [List.mapM_nil] at read
      cases read
      rfl
  | (k, x) :: ms, vs, read => by
      rw [List.mapM_cons] at read
      obtain ⟨y, first, rest⟩ := bind_eq_ok.1 read
      obtain ⟨others, after, same⟩ := bind_eq_ok.1 rest
      obtain ⟨v, valued, rfl⟩ := map_eq_ok.1 first
      cases same
      dsimp only at valued
      rw [valued, List.map_cons, eq_of_mapM after]

/-- Members that are brought into order keep their keys and have the values that are written. -/
theorem ordered_ok {ms : List (String × Item)} {vs : List (String × Value)}
    (read : ordered (membersValues ms) = .ok vs) :
    (vs.map Prod.fst).Perm (ms.map Prod.fst) ∧ ∀ v ∈ vs, ∃ m ∈ ms, m.2.value = .ok v.2 := by
  have sorted : (vs.map fun v => (v.1, Except.ok v.2)).Perm (ms.map fun m => (m.1, m.2.value)) := by
    rw [← eq_of_mapM read, membersValues_eq]
    exact List.mergeSort_perm _ _
  constructor
  · have keys := sorted.map Prod.fst
    rw [List.map_map, List.map_map] at keys
    exact keys
  · intro v member
    have inside := sorted.subset (List.mem_map_of_mem member)
    obtain ⟨m, old, same⟩ := List.mem_map.1 inside
    exact ⟨m, old, congrArg Prod.snd same⟩

/-- However members are arranged, they are brought into the order of their keys. -/
theorem ordered_of_perm {ms sorted : List (String × Except NumberFault Value)}
    (perm : ms.Perm sorted) (ascending : sorted.Pairwise fun a b => a.1 < b.1) :
    ordered ms = sorted.mapM fun m => m.2.map fun v => (m.1, v) := by
  have distinct : (sorted.map Prod.fst).Nodup :=
    List.pairwise_map.2 (ascending.imp fun less => String.ne_of_lt less)
  have arranged : (ms.mergeSort fun a b => decide (a.1 ≤ b.1)).Perm sorted :=
    (List.mergeSort_perm ms _).trans perm
  have same : (ms.mergeSort fun a b => decide (a.1 ≤ b.1)) = sorted := by
    refine arranged.eq_of_pairwise (fun a b left right below above => ?_)
      (List.pairwise_mergeSort (fun a b c first second => ?_) (fun a b => ?_) ms)
      (ascending.imp fun less => decide_eq_true (String.not_lt.1 (String.lt_asymm less)))
    · exact List.inj_on_of_nodup_map distinct (arranged.subset left) right
        (String.le_antisymm (of_decide_eq_true below) (of_decide_eq_true above))
    · exact decide_eq_true
        (String.le_trans (of_decide_eq_true first) (of_decide_eq_true second))
    · simpa using String.le_total a.1 b.1
  rw [ordered, same]

theorem IsItem.value {item : Item} (isItem : IsItem item) :
    ∀ {v : Value}, item.value = .ok v → IsValue v := by
  induction isItem with
  | text t =>
      intro v valued
      cases valued
      exact .text t
  | scalar s => exact isValue_of_scalar
  | list _ ih =>
      intro v valued
      obtain ⟨vs, read, rfl⟩ := map_eq_ok.1 valued
      refine .list fun v member => ?_
      obtain ⟨item, inside, valued⟩ := mem_itemsValues read v member
      exact ih item inside valued
  | table distinct _ ih =>
      intro v valued
      obtain ⟨vs, read, rfl⟩ := map_eq_ok.1 valued
      obtain ⟨keys, members⟩ := ordered_ok read
      refine .object (keys.nodup_iff.2 distinct) fun v member => ?_
      obtain ⟨m, inside, valued⟩ := members v member
      exact ih m inside valued

/-! ## Reading -/

theorem need_eq_ok {α : Type} {x : Option α} {a : α} : need x = .ok a ↔ x = some a := by
  cases x <;> simp [need]

mutual

theorem isItem_of_itemFrom {limit : Option Nat} : ∀ {fuel depth : Nat} {s r : List Char}
    {item : Item}, itemFrom limit fuel depth s = .ok (item, r) → IsItem item
  | 0, _, _, _, _, read => by cases read
  | fuel + 1, depth, s, r, item, read => by
      rw [itemFrom.eq_def] at read
      dsimp only at read
      split at read
      · obtain ⟨⟨items, rest⟩, inside, same⟩ := bind_eq_ok.1 read
        cases same
        exact .list (isItem_of_itemsFrom inside)
      · obtain ⟨⟨members, rest⟩, inside, same⟩ := bind_eq_ok.1 read
        cases same
        exact (tidy_of_pairsFrom tidy_nil inside).items
      · cases read
      · cases read
      · obtain ⟨⟨t, rest⟩, -, same⟩ := bind_eq_ok.1 read
        cases same
        exact .text t
      · obtain ⟨⟨t, rest⟩, -, same⟩ := bind_eq_ok.1 read
        cases same
        exact .text t
      · obtain ⟨⟨v, rest⟩, -, same⟩ := bind_eq_ok.1 read
        cases same
        exact .scalar v

theorem isItem_of_itemsFrom {limit : Option Nat} : ∀ {fuel depth : Nat} {s r : List Char}
    {items : List Item}, itemsFrom limit fuel depth s = .ok (items, r) → ∀ x ∈ items, IsItem x
  | 0, _, _, _, _, read => by cases read
  | fuel + 1, depth, s, r, items, read => by
      rw [itemsFrom.eq_def] at read
      dsimp only at read
      split at read
      · cases read
        exact nofun
      · obtain ⟨⟨x, rest⟩, first, more⟩ := bind_eq_ok.1 read
        have isItem := isItem_of_itemFrom first
        dsimp only at more
        split at more
        · obtain ⟨⟨xs, rest'⟩, others, same⟩ := bind_eq_ok.1 more
          cases same
          exact List.forall_mem_cons.2 ⟨isItem, isItem_of_itemsFrom others⟩
        · cases more
          exact List.forall_mem_singleton.2 isItem
        · cases more

theorem tidy_of_pairsFrom {limit : Option Nat} : ∀ {fuel depth : Nat} {ms ms' : Members}
    {s r : List Char}, Tidy ms → pairsFrom limit fuel depth ms s = .ok (ms', r) → Tidy ms'
  | 0, _, _, _, _, _, _, read => by cases read
  | fuel + 1, depth, ms, ms', s, r, tidy, read => by
      rw [pairsFrom.eq_def] at read
      dsimp only at read
      split at read
      · cases read
        exact tidy
      · obtain ⟨⟨⟨path, k⟩, rest⟩, -, read⟩ := bind_eq_ok.1 read
        obtain ⟨rest, -, read⟩ := bind_eq_ok.1 read
        obtain ⟨⟨v, rest⟩, valued, read⟩ := bind_eq_ok.1 read
        obtain ⟨added, done, more⟩ := bind_eq_ok.1 read
        have tidy' := tidy.put (isItem_of_itemFrom valued) (need_eq_ok.1 done)
        split at more
        · exact tidy_of_pairsFrom tidy' more
        · cases more
          exact tidy'
        · cases more

end

theorem tidy_of_line {limit : Option Nat} {draft draft' : Draft} {s r : List Char}
    (tidy : Tidy draft.members) (read : line limit draft s = .ok (draft', r)) :
    Tidy draft'.members := by
  unfold line at read
  split at read
  · obtain ⟨⟨⟨path, k⟩, rest⟩, -, read⟩ := bind_eq_ok.1 read
    obtain ⟨rest, -, read⟩ := bind_eq_ok.1 read
    obtain ⟨rest, -, read⟩ := bind_eq_ok.1 read
    obtain ⟨members, done, read⟩ := bind_eq_ok.1 read
    obtain ⟨rest, -, same⟩ := bind_eq_ok.1 read
    cases same
    exact tidy.openNext (need_eq_ok.1 done)
  · obtain ⟨⟨⟨path, k⟩, rest⟩, -, read⟩ := bind_eq_ok.1 read
    obtain ⟨rest, -, read⟩ := bind_eq_ok.1 read
    obtain ⟨members, done, read⟩ := bind_eq_ok.1 read
    obtain ⟨rest, -, same⟩ := bind_eq_ok.1 read
    cases same
    exact tidy.openTable (need_eq_ok.1 done)
  · split at read
    · obtain ⟨rest, -, same⟩ := bind_eq_ok.1 read
      cases same
      exact tidy
    · obtain ⟨⟨⟨path, k⟩, rest⟩, -, read⟩ := bind_eq_ok.1 read
      obtain ⟨rest, -, read⟩ := bind_eq_ok.1 read
      obtain ⟨⟨v, rest⟩, valued, read⟩ := bind_eq_ok.1 read
      obtain ⟨members, done, read⟩ := bind_eq_ok.1 read
      obtain ⟨rest, -, same⟩ := bind_eq_ok.1 read
      cases same
      exact tidy.putBelow (isItem_of_itemFrom valued) (need_eq_ok.1 done)

theorem tidy_of_linesFrom {limit : Option Nat} : ∀ {fuel : Nat} {draft draft' : Draft}
    {s : List Char}, Tidy draft.members → linesFrom limit fuel draft s = .ok draft' →
      Tidy draft'.members
  | 0, draft, draft', s, tidy, read => by
      rw [linesFrom] at read
      split at read
      · cases read
        exact tidy
      · cases read
  | fuel + 1, draft, draft', s, tidy, read => by
      rw [linesFrom] at read
      split at read
      · cases read
        exact tidy
      · split at read
        · cases read
        · next first => exact tidy_of_linesFrom (tidy_of_line tidy first) read

/-- **A document is a table without nulls, in which no table has a key twice.** -/
theorem isValue_of_read {source : String} {values : List (String × Value)}
    (found : read source = .ok values) : IsValue (.object values) := by
  unfold read at found
  split at found
  · split at found <;> cases found
  · cases found
  · next members written =>
    split at found
    · cases found
    · next ordered =>
      cases found
      obtain ⟨draft, lines, rfl⟩ := map_eq_ok.1 written
      have empty : Tidy (Draft.mk [] []).members := tidy_nil
      have tidy := tidy_of_linesFrom empty lines
      exact tidy.items.value (map_eq_ok.2 ⟨_, ordered, rfl⟩)

end Toml

end ThemeEditor
