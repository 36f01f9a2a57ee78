/-
# ThemeEditor.Proofs.Random.Arrangement -- a shuffled list has the same members

Whatever is drawn, a shuffle only swaps places: it loses nothing, adds nothing,
and keeps how often each member occurs.
-/
import ThemeEditor.Random.Shuffle

namespace ThemeEditor.Random

set_option autoImplicit false

variable {α : Type}

theorem perm_swapIfInBounds (items : Array α) (i j : Nat) :
    (items.swapIfInBounds i j).toList.Perm items.toList := by
  unfold Array.swapIfInBounds
  split
  · split
    · exact (Array.swap_perm _ _).toList
    · exact .refl _
  · exact .refl _

theorem perm_rearrange : ∀ (last : Nat) (js : List Nat) (items : Array α),
    (rearrange last js items).toList.Perm items.toList
  | 0, _, _ => .refl _
  | _ + 1, [], _ => .refl _
  | last + 1, j :: js, items =>
      (perm_rearrange last js _).trans (perm_swapIfInBounds items (last + 1) j)

theorem perm_arranged (js : List Nat) (items : List α) : (arranged js items).Perm items :=
  perm_rearrange _ js items.toArray

/-- A shuffle rearranges a list. -/
theorem perm_shuffle (items : List α) (w : WordSource) : (shuffle items w).1.Perm items :=
  perm_arranged _ items

end ThemeEditor.Random
