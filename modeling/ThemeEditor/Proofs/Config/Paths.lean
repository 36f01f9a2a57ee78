/-
# ThemeEditor.Proofs.Config.Paths -- values at the end of a path of keys

A layer sets values at the ends of paths.  What stands at the end of other keys
is left alone, as long as the two part at a key: neither is the beginning of the
other, and no list is put where a table is (`Apart`, `find?_setAt_apart`).  A
scalar is found where it was set (`find?_setAt_self`).

A table without nulls, in which no key stands twice, is laid over nothing as it
is: at the end of every path of keys stands what stood there (`scalar?_find?_merge`).

A name has the steps of one path, which begins with a key (`segments_cons`), and a
path of keys has one name (`toList_of_segments`).  Names that are plain keys are merged
as they are (`layer_ofMembers`).
-/
import ThemeEditor.Config.Tree
import ThemeEditor.Proofs.Toml.Tables

namespace ThemeEditor.Config

set_option autoImplicit false

open Toml (IsValue)

/-- What stands in a value at the end of some keys. -/
def valueAt : List String → Json.Value → Option Json.Value
  | [], v => some v
  | k :: ks, .object ms => (ms.find? fun m => m.1 = k).bind fun m => valueAt ks m.2
  | _ :: _, _ => none

namespace Tree

/-- What stands at the end of some keys. -/
def find? : List String → Tree → Option Tree
  | [], t => some t
  | k :: ks, t => (t.get? k).bind (find? ks)

/-- The scalar that a value is, if it is one. -/
def scalar? : Tree → Option Scalar
  | .scalar s _ => some s
  | .list _ _ | .table _ _ => none

/-- Whether a value is a table. -/
def isTable : Tree → Bool
  | .table _ _ => true
  | _ => false

variable {t u below : Tree} {k l : String} {ks : List String} {path : List Segment}

/-! ## One key -/

theorem find?_putMember (t : Tree) : ∀ ms : List (String × Tree),
    (putMember k t ms).find? (fun m => m.1 = l) =
      if k = l then some (k, t) else ms.find? fun m => m.1 = l
  | [] => by
      rw [putMember, List.find?_cons, List.find?_nil]
      by_cases same : k = l <;> simp [same]
  | (k', u) :: ms => by
      rw [putMember]
      by_cases here : k' = k
      · rw [if_pos here, List.find?_cons, List.find?_cons, here]
        by_cases same : k = l <;> simp [same]
      · rw [if_neg here, List.find?_cons, List.find?_cons, find?_putMember t ms]
        by_cases same : k = l
        · have other : k' ≠ l := same ▸ here
          simp [same, other]
        · simp only [if_neg same]

theorem get?_put_self (below : Tree) (k : String) (t : Tree) : (below.put k t).get? k = some t := by
  unfold put
  split
  · rw [get?, find?_putMember, if_pos rfl]
    rfl
  · simp [get?]

theorem get?_put_other (other : k ≠ l) (below t : Tree) :
    (below.put k t).get? l = below.get? l := by
  unfold put
  split
  · rw [get?, find?_putMember, if_neg other]
    rfl
  · next notTable =>
    have nothing : below.get? l = none := by
      cases below with
      | table ms origin => exact absurd rfl (notTable ms origin)
      | _ => rfl
    rw [nothing]
    simp [get?, other]

theorem isTable_put (below : Tree) (k : String) (t : Tree) : (below.put k t).isTable = true := by
  unfold put
  split <;> rfl

theorem scalar?_of_isTable (isTable : t.isTable = true) : t.scalar? = none := by
  cases t with
  | table ms origin => rfl
  | _ => cases isTable

/-! ## Setting one value -/

/-- A path and some keys that part at a key. -/
inductive Apart : List Segment → List String → Prop where
  | here {k l : String} {path : List Segment} {ks : List String} (other : k ≠ l) :
      Apart (.key k :: path) (l :: ks)
  | after {k : String} {path : List Segment} {ks : List String} (apart : Apart path ks) :
      Apart (.key k :: path) (k :: ks)

theorem find?_setAt_apart (apart : Apart path ks) (v : Tree) :
    ∀ below : Tree, (setAt v path below).find? ks = below.find? ks := by
  induction apart with
  | here other =>
      intro below
      rw [setAt, find?, find?, get?_put_other other]
  | @after k path ks apart ih =>
      intro below
      rw [setAt, find?, find?, get?_put_self, Option.bind_some, ih]
      cases below.get? k with
      | some u => rfl
      | none =>
          -- nothing stands below what is missing
          cases apart with
          | here other => rfl
          | after apart => rfl

theorem find?_setAt_self (s : Scalar) (origin : Option String) : ∀ (ks : List String) (below : Tree),
    (setAt (.scalar s origin) (ks.map .key) below).find? ks = some (.scalar s origin)
  | [], below => by rw [List.map_nil, setAt, find?, merge]; exact nofun
  | k :: ks, below => by
      rw [List.map_cons, setAt, find?, get?_put_self, Option.bind_some,
        find?_setAt_self s origin ks]

/-- What stands under a key is still a table, unless a path ended there or led into a list. -/
theorem isTable_setAt {rest : List Segment} (within : l = k → ∃ l' rest', rest = .key l' :: rest')
    (v : Tree) (isTable : ∀ u, below.get? k = some u → u.isTable = true) :
    ∀ u, (setAt v (.key l :: rest) below).get? k = some u → u.isTable = true := by
  intro u found
  rw [setAt] at found
  by_cases same : l = k
  · subst same
    obtain ⟨l', rest', rfl⟩ := within rfl
    rw [get?_put_self, setAt] at found
    exact Option.some.inj found ▸ isTable_put _ _ _
  · rw [get?_put_other same] at found
    exact isTable u found

/-! ## Laying tables over nothing -/

theorem isTable_mergeMembers : ∀ (ms : List (String × Tree)) {below : Tree}, below.isTable = true →
    (mergeMembers below ms).isTable = true
  | [], _, isTable => isTable
  | (k, t) :: ms, below, _ => by
      rw [mergeMembers]
      exact isTable_mergeMembers ms (isTable_put below k _)

/-- Each member of a table is laid over what stands under its key. -/
theorem get?_mergeMembers : ∀ {ms : List (String × Tree)} {below : Tree},
    (ms.map Prod.fst).Nodup → (mergeMembers below ms).get? k =
      match ms.find? fun m => m.1 = k with
      | some m => some (merge ((below.get? k).getD nothing) m.2)
      | none => below.get? k
  | [], _, _ => rfl
  | (l, t) :: ms, below, distinct => by
      obtain ⟨new, distinct⟩ := List.nodup_cons.1 distinct
      rw [mergeMembers, get?_mergeMembers distinct, List.find?_cons]
      by_cases same : l = k
      · subst same
        have absent : ms.find? (fun m => m.1 = l) = none := by
          refine List.find?_eq_none.2 fun m member found => new ?_
          have inside : m.1 ∈ ms.map Prod.fst := List.mem_map_of_mem member
          exact of_decide_eq_true found ▸ inside
        rw [absent, get?_put_self]
        simp
      · rw [get?_put_other same]
        simp [same]

theorem ofMembers_eq (origin : Option String) : ∀ ms : List (String × Json.Value),
    ofMembers origin ms = ms.map fun m => (m.1, ofValue origin m.2)
  | [] => rfl
  | (k, x) :: ms => by rw [ofMembers, ofMembers_eq origin ms, List.map_cons]

theorem get?_ofMembers {ms : List (String × Json.Value)} (distinct : (ms.map Prod.fst).Nodup)
    (origin : Option String) (k : String) :
    (mergeMembers (.table [] none) (ofMembers origin ms)).get? k =
      (ms.find? fun m => m.1 = k).map fun m => merge nothing (ofValue origin m.2) := by
  have keys : ((ofMembers origin ms).map Prod.fst).Nodup := by
    rw [ofMembers_eq, List.map_map]
    exact distinct
  have sameKey : ((fun m : String × Tree => decide (m.1 = k)) ∘
      fun m : String × Json.Value => (m.1, ofValue origin m.2)) = fun m => decide (m.1 = k) := rfl
  rw [get?_mergeMembers keys, ofMembers_eq, List.find?_map, sameKey]
  cases ms.find? fun m => m.1 = k <;> rfl

theorem merge_nothing_object (origin : Option String) (ms : List (String × Json.Value)) :
    merge nothing (ofValue origin (.object ms)) =
      mergeMembers (.table [] none) (ofMembers origin ms) := by
  rw [ofValue, nothing, merge]

/-- A value of a document is laid over nothing as it is. -/
theorem scalar?_find?_merge (origin : Option String) : ∀ (ks : List String) {v : Json.Value},
    IsValue v → ((merge nothing (ofValue origin v)).find? ks).map scalar? =
      (valueAt ks v).map fun x => (ofValue none x).scalar?
  | [], _, isValue => by
      cases isValue with
      | boolean b => rfl
      | number n => cases n <;> rfl
      | text t => rfl
      | list items => rfl
      | @object ms distinct members =>
          have table : (merge nothing (ofValue origin (.object ms))).isTable = true := by
            rw [merge_nothing_object]
            exact isTable_mergeMembers _ rfl
          rw [find?, valueAt, Option.map_some, Option.map_some, scalar?_of_isTable table]
          rfl
  | k :: ks, _, isValue => by
      cases isValue with
      | boolean b => rfl
      | number n => cases n <;> rfl
      | text t => rfl
      | list items => rfl
      | @object ms distinct members =>
          rw [merge_nothing_object, find?, get?_ofMembers distinct, valueAt]
          cases found : ms.find? fun m => m.1 = k with
          | none => rfl
          | some m =>
              exact scalar?_find?_merge origin ks (members m (List.mem_of_find?_eq_some found))

/-! ## Names -/

variable {name : String}

theorem segments_cons (name : String) : ∃ k rest, segments name = .key k :: rest := by
  unfold segments
  dsimp only
  split
  · exact ⟨name, [], rfl⟩
  · split
    · exact ⟨_, _, rfl⟩
    · exact ⟨name, [], rfl⟩

/-- A name without points and brackets is one key. -/
theorem segments_of_plain (point : '.' ∉ name.toList) (bracket : '[' ∉ name.toList) :
    segments name = [.key name] := by
  unfold segments
  dsimp only
  split
  · rfl
  · have whole := List.takeWhile_append_dropWhile (p := Toml.isBare) (l := name.toList)
    split
    · next rest read =>
      -- the first key is the whole name, for nothing may follow it
      cases behind : name.toList.dropWhile Toml.isBare with
      | nil =>
          rw [behind, segmentsFrom] at read
          cases read
          rw [behind, List.append_nil] at whole
          rw [whole, String.ofList_toList]
      | cons c r =>
          have member : c ∈ name.toList := by
            rw [← whole, behind]
            exact List.mem_append_right _ List.mem_cons_self
          rw [behind, segmentsFrom.eq_def] at read
          dsimp only at read
          split at read
          · cases read
          · next none => cases none
          · next same =>
            cases same
            exact absurd member point
          · next same =>
            cases same
            exact absurd member bracket
          · cases read
    · rfl

/-- Plain keys are merged as they are. -/
theorem layer_of_plain : ∀ {ms : List (String × Tree)} (below : Tree),
    (∀ m ∈ ms, '.' ∉ m.1.toList ∧ '[' ∉ m.1.toList) → below.layer ms = mergeMembers below ms
  | [], _, _ => rfl
  | (k, t) :: ms, below, plain => by
      obtain ⟨point, bracket⟩ := plain (k, t) List.mem_cons_self
      have first : below.layer ((k, t) :: ms) = (setAt t (segments k) below).layer ms := rfl
      rw [first, segments_of_plain point bracket, mergeMembers, setAt, setAt]
      exact layer_of_plain _ fun m member => plain m (List.mem_cons_of_mem _ member)

/-- So are the members of a document whose keys are plain. -/
theorem layer_ofMembers {values : List (String × Json.Value)} {origin : Option String}
    (plain : ∀ m ∈ values, '.' ∉ m.1.toList ∧ '[' ∉ m.1.toList) (below : Tree) :
    below.layer (ofMembers origin values) = mergeMembers below (ofMembers origin values) := by
  refine layer_of_plain below ?_
  rw [ofMembers_eq]
  intro m member
  obtain ⟨m', inside, rfl⟩ := List.mem_map.1 member
  exact plain m' inside

theorem toList_of_segmentsFrom : ∀ {fuel : Nat} {cs : List Char} {ks : List String},
    segmentsFrom fuel cs = some (ks.map .key) → cs = ks.flatMap fun k => '.' :: k.toList
  | 0, _, _, read => by cases read
  | fuel + 1, cs, ks, read => by
      rw [segmentsFrom.eq_def] at read
      dsimp only at read
      split at read
      · cases read
      · have nothing : ks = [] := List.map_eq_nil_iff.1 (Option.some.inj read).symm
        rw [nothing]
        rfl
      · next r _ =>
        split at read
        · cases read
        · obtain ⟨rest, below, same⟩ := Option.map_eq_some_iff.1 read
          obtain ⟨k, ks, rfl, first, others⟩ := List.map_eq_cons_iff.1 same.symm
          cases first
          have after := toList_of_segmentsFrom (others ▸ below)
          rw [List.flatMap_cons, ← after, String.toList_ofList, List.cons_append,
            List.takeWhile_append_dropWhile]
      · obtain ⟨⟨place, r⟩, -, read⟩ := Option.bind_eq_some_iff.1 read
        obtain ⟨rest, -, same⟩ := Option.bind_eq_some_iff.1 read
        obtain ⟨k, ks, rfl, first, -⟩ := List.map_eq_cons_iff.1 (Option.some.inj same).symm
        cases first
      · cases read

/-- The name of a path of keys. -/
theorem toList_of_segments {k : String} {ks : List String}
    (path : segments name = .key k :: ks.map .key) :
    name.toList = k.toList ++ ks.flatMap fun k => '.' :: k.toList := by
  have plain : [Segment.key name] = .key k :: ks.map .key →
      name.toList = k.toList ++ ks.flatMap fun k => '.' :: k.toList := by
    intro same
    obtain ⟨first, others⟩ := List.cons.inj same
    cases first
    rw [List.map_eq_nil_iff.1 others.symm, List.flatMap_nil, List.append_nil]
  unfold segments at path
  dsimp only at path
  split at path
  · exact plain path
  · split at path
    · next read =>
      obtain ⟨first, others⟩ := List.cons.inj path
      cases first
      rw [others] at read
      rw [String.toList_ofList, ← toList_of_segmentsFrom read, List.takeWhile_append_dropWhile]
    · exact plain path

end Tree

end ThemeEditor.Config
