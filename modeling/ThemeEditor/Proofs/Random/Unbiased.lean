/-
# ThemeEditor.Proofs.Random.Unbiased -- every arrangement from one vector of draws

A vector of draws holds one place for each place of a list from the last down to the
second, and none beyond its own (`DrawVector`).  What the draws do is to move
members between places, so it is a permutation of the places (`performed`): each
place with the one that its member comes from.

The first draw is where the member of the last place comes from, because the swaps
after it stay below that place (`source_last`).  So a permutation tells its first
draw, and with that swap undone it is a permutation of the places below.  Going on
like this, vectors with the same effect are the same (`source_injective`), and every
permutation is the effect of some vector (`exists_source`).

The draws are made in turn: the place `i` is filled by one draw below `i + 1`, which
begins behind the word that the draw before it took (`drawnInTurn_draws`).  Each result
of such a draw is made of equally many words (`Proofs.Random.Words`), and every vector
is drawn from some words (`exists_drawn`).

`unbiased` says what follows for lists: of a list without repetitions, each of the
`n!` arrangements is made by exactly one of the `n!` vectors.  If each vector is drawn
as often as any other, so is each arrangement.
-/
import Mathlib.Data.Finite.Perm
import Mathlib.Data.List.FinRange
import Mathlib.Data.List.Forall2
import Mathlib.Logic.Equiv.Fin.Basic
import Mathlib.SetTheory.Cardinal.Finite
import ThemeEditor.Proofs.Random.Arrangement
import ThemeEditor.Proofs.Random.Words

namespace ThemeEditor.Random

set_option autoImplicit false

variable {α : Type}

/-! ## Vectors of draws -/

/-- The places from `last` down to the second one. -/
def places : Nat → List Nat
  | 0 => []
  | last + 1 => (last + 1) :: places last

/-- One draw for each place from `last` down to the second: a place up to that one. -/
def Drawable (last : Nat) (js : List Nat) : Prop :=
  List.Forall₂ (· ≤ ·) js (places last)

/-- What can be drawn for a list of `n` members. -/
def DrawVector (n : Nat) : Type :=
  { js : List Nat // Drawable (n - 1) js }

theorem drawable_succ {last : Nat} {js : List Nat} :
    Drawable (last + 1) js ↔ ∃ j rest, js = j :: rest ∧ j ≤ last + 1 ∧ Drawable last rest := by
  constructor
  · intro drawable
    cases drawable with
    | cons first rest => exact ⟨_, _, rfl, first, rest⟩
  · rintro ⟨j, rest, rfl, first, drawable⟩
    exact .cons first drawable

/-- A shuffle draws no place beyond the one it fills. -/
theorem drawable_draws (last : Nat) (w : WordSource) : Drawable last (draws last w).1 := by
  induction last generalizing w with
  | zero => exact .nil
  | succ last ih =>
      have first : (w.draw (last + 2)).1 < last + 2 :=
        WordSource.drawFrom_lt (by omega) _ w
      exact .cons (Nat.lt_succ_iff.1 first) (ih _)

/-- The draws that a shuffle makes for a list of `n` members. -/
def drawn (n : Nat) (w : WordSource) : DrawVector n :=
  ⟨(draws (n - 1) w).1, drawable_draws (n - 1) w⟩

/-- The draws fill the places from `last` down to the second: the place `i` by one draw below
`i + 1`, which begins where the draw before it left the words. -/
def DrawnInTurn (last : Nat) (w : WordSource) (js : List Nat) (left : WordSource) : Prop :=
  js.length = last ∧ ∃ sources : Nat → WordSource, sources 0 = w ∧ sources last = left ∧
    ∀ k (_ : k < js.length), (sources k).draw ((last - k) + 1) = (js[k], sources (k + 1))

theorem drawnInTurn_draws (last : Nat) (w : WordSource) :
    DrawnInTurn last w (draws last w).1 (draws last w).2 := by
  induction last generalizing w with
  | zero => exact ⟨rfl, fun _ => w, rfl, rfl, fun k inside => absurd inside (Nat.not_lt_zero k)⟩
  | succ last ih =>
      obtain ⟨length, sources, first, final, turns⟩ := ih (w.draw (last + 2)).2
      refine ⟨congrArg Nat.succ length, fun k => k.casesOn w sources, rfl, final, ?_⟩
      intro k inside
      cases k with
      | zero => exact Prod.ext rfl first.symm
      | succ k =>
          rw [Nat.succ_sub_succ]
          exact turns k (Nat.lt_of_succ_lt_succ inside)

/-- Words that make the draws `js`, wherever they are read from. -/
theorem exists_words {last : Nat} {js : List Nat} (drawable : Drawable last js)
    (inside : last < UInt64.size) :
    ∃ words : List UInt64, ∀ w : WordSource,
      (∀ k (_ : k < words.length), w.word (w.used + k) = words[k]) → (draws last w).1 = js := by
  induction last generalizing js with
  | zero =>
      cases drawable
      exact ⟨[], fun _ _ => rfl⟩
  | succ last ih =>
      obtain ⟨j, rest, rfl, first, drawable⟩ := drawable_succ.1 drawable
      obtain ⟨words, makes⟩ := ih drawable (by omega)
      obtain ⟨v, accepted, value⟩ := exists_accepts (j := j) (Nat.succ_le_of_lt inside) (by omega)
      refine ⟨v :: words, fun w given => ?_⟩
      have next : w.word (w.used + 0) = v := given 0 (Nat.succ_pos _)
      have taken : w.FirstAccepted (last + 2) 0 :=
        ⟨fun k before => absurd before (Nat.not_lt_zero k), by rwa [next]⟩
      have draw : w.draw (last + 2) = (j, w.after 1) := by
        rw [WordSource.draw_of_firstAccepted taken (by decide), next, value]
      have later : (draws last (w.after 1)).1 = rest := by
        refine makes _ fun k within => ?_
        rw [WordSource.used_after_one_add]
        exact given (k + 1) (Nat.succ_lt_succ within)
      simp only [draws, draw, later]

/-- Every vector of draws is drawn from some words. -/
theorem exists_drawn {n : Nat} (inside : n ≤ UInt64.size) (v : DrawVector n) :
    ∃ w, drawn n w = v := by
  have last : n - 1 < UInt64.size := by
    have positive : 0 < UInt64.size := by decide
    omega
  obtain ⟨words, makes⟩ := exists_words v.2 last
  refine ⟨⟨fun k => words.getD k 0, 0⟩, Subtype.ext (makes _ fun k within => ?_)⟩
  simp [within]

/-! ## Where members come from -/

/-- The place that each place gets its member from. -/
def source : Nat → List Nat → Equiv.Perm Nat
  | last + 1, j :: js => Equiv.swap (last + 1) j * source last js
  | _, _ => 1

theorem source_beyond {last : Nat} {js : List Nat} (drawable : Drawable last js) {k : Nat}
    (beyond : last < k) : source last js k = k := by
  induction last generalizing js with
  | zero =>
      cases drawable
      rfl
  | succ last ih =>
      obtain ⟨j, rest, rfl, first, drawable⟩ := drawable_succ.1 drawable
      rw [source, Equiv.Perm.mul_apply, ih drawable (by omega)]
      exact Equiv.swap_apply_of_ne_of_ne (by omega) (by omega)

/-- The first draw is the place that the last place gets its member from. -/
theorem source_last {last j : Nat} {js : List Nat} (drawable : Drawable last js) :
    source (last + 1) (j :: js) (last + 1) = j := by
  rw [source, Equiv.Perm.mul_apply, source_beyond drawable (Nat.lt_succ_self last)]
  exact Equiv.swap_apply_left _ _

theorem getElem?_swapIfInBounds {items : Array α} {i j : Nat} (first : i < items.size)
    (second : j < items.size) (k : Nat) :
    (items.swapIfInBounds i j)[k]? = items[Equiv.swap i j k]? := by
  rw [Array.swapIfInBounds_def, dif_pos first, dif_pos second, Array.getElem?_swap,
    Equiv.swap_apply_def]
  by_cases atSecond : j = k
  · subst atSecond
    by_cases same : j = i
    · subst same
      simp [first]
    · simp [same, first]
  · by_cases atFirst : i = k
    · subst atFirst
      simp [atSecond, second]
    · simp [atSecond, atFirst, Ne.symm atSecond, Ne.symm atFirst]

/-- After the swaps, each place holds the member of its source. -/
theorem getElem?_rearrange {last : Nat} {js : List Nat} (drawable : Drawable last js)
    {items : Array α} (inside : last ≤ items.size - 1) (k : Nat) :
    (rearrange last js items)[k]? = items[source last js k]? := by
  induction last generalizing js items with
  | zero =>
      cases drawable
      rfl
  | succ last ih =>
      obtain ⟨j, rest, rfl, first, drawable⟩ := drawable_succ.1 drawable
      have kept : (items.swapIfInBounds (last + 1) j).size = items.size :=
        Array.size_swapIfInBounds
      rw [rearrange, ih drawable (by omega),
        getElem?_swapIfInBounds (by omega) (by omega), source, Equiv.Perm.mul_apply]

/-! ## Vectors and permutations -/

/-- Draws with the same effect are the same. -/
theorem source_injective {last : Nat} {js js' : List Nat} (drawable : Drawable last js)
    (drawable' : Drawable last js') (same : source last js = source last js') : js = js' := by
  induction last generalizing js js' with
  | zero =>
      cases drawable
      cases drawable'
      rfl
  | succ last ih =>
      obtain ⟨j, rest, rfl, -, below⟩ := drawable_succ.1 drawable
      obtain ⟨j', rest', rfl, -, below'⟩ := drawable_succ.1 drawable'
      have first : j = j' :=
        calc j = source (last + 1) (j :: rest) (last + 1) := (source_last below).symm
          _ = source (last + 1) (j' :: rest') (last + 1) := by rw [same]
          _ = j' := source_last below'
      subst first
      rw [source, source, mul_right_inj] at same
      rw [ih below below' same]

/-- A permutation that moves no place from `n` on stays below `n`. -/
theorem apply_lt_of_fixes {n : Nat} {σ : Equiv.Perm Nat} (fixes : ∀ k, n ≤ k → σ k = k) {k : Nat}
    (below : k < n) : σ k < n := by
  by_contra beyond
  have fixed : σ (σ k) = σ k := fixes _ (Nat.not_lt.1 beyond)
  have still : σ k = k := σ.injective fixed
  omega

/-- Every permutation of the places up to `last` is the effect of some draws. -/
theorem exists_source {last : Nat} {σ : Equiv.Perm Nat} (fixes : ∀ k, last < k → σ k = k) :
    ∃ js, Drawable last js ∧ source last js = σ := by
  induction last generalizing σ with
  | zero =>
      refine ⟨[], .nil, ?_⟩
      ext k
      cases k with
      | zero =>
          have zero : σ 0 < 1 := apply_lt_of_fixes fixes Nat.zero_lt_one
          exact (Nat.lt_one_iff.1 zero).symm
      | succ k => exact (fixes (k + 1) (Nat.succ_pos k)).symm
  | succ last ih =>
      have first : σ (last + 1) < last + 2 := apply_lt_of_fixes fixes (Nat.lt_succ_self _)
      -- with the first swap undone, the last place stays where it is
      have rest : ∀ k, last < k → (Equiv.swap (last + 1) (σ (last + 1)) * σ) k = k := by
        intro k beyond
        rw [Equiv.Perm.mul_apply]
        by_cases isLast : k = last + 1
        · rw [isLast]
          exact Equiv.swap_apply_right _ _
        · rw [fixes k (by omega)]
          exact Equiv.swap_apply_of_ne_of_ne isLast (by omega)
      obtain ⟨js, drawable, effect⟩ := ih rest
      refine ⟨σ (last + 1) :: js, .cons (Nat.lt_succ_iff.1 first) drawable, ?_⟩
      rw [source, effect, ← mul_assoc, Equiv.swap_mul_self, one_mul]

namespace DrawVector

variable {n : Nat}

theorem source_fixes (v : DrawVector n) {k : Nat} (beyond : n ≤ k) : source (n - 1) v.1 k = k := by
  obtain ⟨js, drawable⟩ := v
  cases n with
  | zero =>
      cases drawable
      rfl
  | succ last => exact source_beyond drawable beyond

theorem source_lt (v : DrawVector n) (i : Fin n) : source (n - 1) v.1 i < n :=
  apply_lt_of_fixes (fun _ => v.source_fixes) i.isLt

end DrawVector

/-- What a vector of draws does to `n` places: each with the one its member comes from. -/
def performed {n : Nat} (v : DrawVector n) : Equiv.Perm (Fin n) where
  toFun i := ⟨source (n - 1) v.1 i, v.source_lt i⟩
  invFun i := ⟨(source (n - 1) v.1).symm i, by
    refine apply_lt_of_fixes (fun k beyond => ?_) i.isLt
    rw [Equiv.symm_apply_eq, v.source_fixes beyond]⟩
  left_inv i := by simp
  right_inv i := by simp

/-- The draws put at each place the member of the place that it is performed from. -/
theorem arranged_eq_ofFn (items : List α) (v : DrawVector items.length) :
    arranged v.1 items = List.ofFn fun i => items[performed v i] := by
  refine List.ext_getElem? fun k => ?_
  have placed : (arranged v.1 items)[k]? = items[source (items.length - 1) v.1 k]? := by
    rw [arranged, Array.getElem?_toList, getElem?_rearrange v.2 le_rfl, List.getElem?_toArray]
  rw [placed, List.getElem?_ofFn]
  split
  · next inside => exact List.getElem?_eq_getElem (v.source_lt ⟨k, inside⟩)
  · next outside =>
    rw [v.source_fixes (Nat.not_lt.1 outside)]
    exact List.getElem?_eq_none (Nat.not_lt.1 outside)

/-- Each permutation of the places is performed by exactly one vector of draws. -/
theorem bijective_performed (n : Nat) :
    Function.Bijective (performed : DrawVector n → Equiv.Perm (Fin n)) := by
  constructor
  · intro v v' same
    have effect : source (n - 1) v.1 = source (n - 1) v'.1 := by
      ext k
      by_cases inside : k < n
      · exact congrArg Fin.val (Equiv.congr_fun same ⟨k, inside⟩)
      · rw [v.source_fixes (Nat.not_lt.1 inside), v'.source_fixes (Nat.not_lt.1 inside)]
    exact Subtype.ext (source_injective v.2 v'.2 effect)
  · intro σ
    have fixes : ∀ k, n - 1 < k → σ.extendDomain Fin.equivSubtype k = k := fun k beyond =>
      σ.extendDomain_apply_not_subtype Fin.equivSubtype (by omega)
    obtain ⟨js, drawable, effect⟩ := exists_source fixes
    refine ⟨⟨js, drawable⟩, ?_⟩
    ext i
    have inside := σ.extendDomain_apply_subtype Fin.equivSubtype i.isLt
    rw [← effect] at inside
    exact inside

/-! ## Arrangements of a list -/

/-- An arrangement of distinct members is a permutation of their places. -/
theorem exists_perm_of_nodup {items arrangement : List α} (distinct : items.Nodup)
    (perm : arrangement.Perm items) :
    ∃ σ : Equiv.Perm (Fin items.length), arrangement = List.ofFn fun i => items[σ i] := by
  classical
  have length := perm.length_eq
  have inside : ∀ i : Fin items.length, items.idxOf arrangement[i] < items.length := fun i =>
    List.idxOf_lt_length_iff.2 (perm.subset (List.getElem_mem _))
  have injective : Function.Injective fun i : Fin items.length =>
      (⟨items.idxOf arrangement[i], inside i⟩ : Fin items.length) := by
    intro i j same
    have found : items.idxOf arrangement[i] = items.idxOf arrangement[j] :=
      congrArg Fin.val same
    have member : arrangement[i] = arrangement[j] :=
      (List.idxOf_inj (perm.subset (List.getElem_mem _))).1 found
    exact Fin.ext ((perm.nodup_iff.2 distinct).getElem_inj_iff.1 member)
  refine ⟨Equiv.ofBijective _ (Finite.injective_iff_bijective.1 injective), ?_⟩
  refine List.ext_getElem (by simp [length]) fun k within _ => ?_
  rw [List.getElem_ofFn]
  exact (List.getElem_idxOf (inside ⟨k, length ▸ within⟩)).symm

/-- An arrangement of distinct members is made by exactly one vector of draws. -/
theorem existsUnique_draws {items arrangement : List α} (distinct : items.Nodup)
    (perm : arrangement.Perm items) :
    ∃! v : DrawVector items.length, arranged v.1 items = arrangement := by
  obtain ⟨σ, rfl⟩ := exists_perm_of_nodup distinct perm
  obtain ⟨v, rfl⟩ := (bijective_performed _).2 σ
  refine ⟨v, arranged_eq_ofFn items v, fun v' same => ?_⟩
  have sameMembers := (arranged_eq_ofFn items v').symm.trans same
  rw [List.ofFn_inj] at sameMembers
  refine (bijective_performed _).1 (Equiv.ext fun i => ?_)
  exact Fin.ext (distinct.getElem_inj_iff.1 (congrFun sameMembers i))

/-- **A shuffle is unbiased.**  For every number of places, the vectors of draws are as many as
the permutations, and each permutation is performed by exactly one of them; what is performed
is what happens to the members of every list.  Whatever words a shuffle gets, it makes such
draws, one after another for one place after another, and rearranges the list with all its
repetitions.  A draw takes the first word that is accepted and gives what is made of it, which
is each place up to the one that is filled for equally many words; and every vector is drawn
from some words.  Each arrangement of distinct members is made by exactly one vector. -/
theorem unbiased :
    (∀ n, Function.Bijective (performed : DrawVector n → Equiv.Perm (Fin n)) ∧
      Nat.card (DrawVector n) = n.factorial) ∧
    (∀ (items : List α) (v : DrawVector items.length),
      arranged v.1 items = List.ofFn fun i => items[performed v i]) ∧
    (∀ (items : List α) (w : WordSource),
      DrawnInTurn (items.length - 1) w (drawn items.length w).1 (shuffle items w).2 ∧
        (shuffle items w).1 = arranged (drawn items.length w).1 items ∧
        (shuffle items w).1.Perm items) ∧
    (∀ (bound skipped : Nat) (w : WordSource), w.FirstAccepted bound skipped →
      skipped < UInt64.size →
      w.draw bound = (result bound (w.word (w.used + skipped)), w.after (skipped + 1))) ∧
    (∀ bound j : Nat, bound ≤ UInt64.size → j < bound →
      Nat.card { v : UInt64 // Accepts bound v ∧ result bound v = j } = 2 ^ (63 - bound.log2)) ∧
    (∀ n ≤ UInt64.size, ∀ v : DrawVector n, ∃ w, drawn n w = v) ∧
    ∀ items arrangement : List α, items.Nodup → arrangement.Perm items →
      ∃! v : DrawVector items.length, arranged v.1 items = arrangement := by
  refine ⟨fun n => ⟨bijective_performed n, ?_⟩, arranged_eq_ofFn,
    fun items w => ⟨drawnInTurn_draws _ w, rfl, perm_shuffle items w⟩,
    fun bound skipped w first enough => WordSource.draw_of_firstAccepted first enough,
    fun bound j inside below => card_accepts inside below,
    fun n inside v => exists_drawn inside v,
    fun items arrangement distinct perm => existsUnique_draws distinct perm⟩
  rw [Nat.card_eq_of_bijective _ (bijective_performed n), Nat.card_perm, Nat.card_fin]

/-- Moving the first of three letters to the end comes from one vector.  A draw below three
skips the greatest word, which is not accepted, and takes the 0 behind it; each of its three
results is made of as many words, and the vector of draws is drawn from some words. -/
theorem unbiased_turned :
    ['a', 'b', 'c'].Nodup ∧ ['b', 'c', 'a'].Perm ['a', 'b', 'c'] ∧
      (∃! v : DrawVector 3, arranged v.1 ['a', 'b', 'c'] = ['b', 'c', 'a']) ∧
      (∃ w, (drawn 3 w).1 = [0, 0]) ∧
      WordSource.draw 3 ⟨fun k => if k = 0 then 18446744073709551615 else 0, 0⟩ =
        (0, ⟨fun k => if k = 0 then 18446744073709551615 else 0, 2⟩) ∧
      Nat.card { v : UInt64 // Accepts 3 v ∧ result 3 v = 2 } = 2 ^ 62 := by
  have distinct : ['a', 'b', 'c'].Nodup := by decide
  have perm : ['b', 'c', 'a'].Perm ['a', 'b', 'c'] := by decide
  have zeros : Drawable 2 [0, 0] := .cons (by decide) (.cons (by decide) .nil)
  have second : WordSource.FirstAccepted 3
      ⟨fun k => if k = 0 then 18446744073709551615 else 0, 0⟩ 1 := by
    constructor
    · intro k before
      obtain rfl := Nat.lt_one_iff.1 before
      decide
    · decide
  obtain ⟨-, -, -, draws, words, vectors, arrangements⟩ := unbiased (α := Char)
  refine ⟨distinct, perm, arrangements _ _ distinct perm, ?_,
    draws 3 1 _ second (by decide), words 3 2 (by decide) (by decide)⟩
  obtain ⟨w, made⟩ := vectors 3 (by decide) ⟨[0, 0], zeros⟩
  exact ⟨w, congrArg Subtype.val made⟩

end ThemeEditor.Random
