/-
# ThemeEditor.Proofs.Random.Words -- which words a draw takes, and what for

A draw throws words away until it accepts one, and leaves the source right behind that
one (`draw_of_firstAccepted`).

Seen as products with the bound, the words that are accepted for a result are those
in a stretch of `bound * share bound` numbers that begins at a multiple of `2 ^ 64`
(`accepts_iff_product`).  So they follow on each other from the `firstWord` of the
result on, and there are `share bound` of them (`accepts_iff`), however the bound and
`2 ^ 64` divide each other: every result has the same number (`card_accepts`).
-/
import Mathlib.SetTheory.Cardinal.NatCard
import ThemeEditor.Random.Words

namespace ThemeEditor.Random

set_option autoImplicit false

/-! ## Accepted words -/

/-- A draw below `bound` takes the word `v`. -/
def Accepts (bound : Nat) (v : UInt64) : Prop :=
  v.toNat * bound % UInt64.size ≤ WordSource.zone bound

instance (bound : Nat) (v : UInt64) : Decidable (Accepts bound v) :=
  inferInstanceAs (Decidable (_ ≤ _))

/-- What a draw below `bound` makes of the word `v`. -/
def result (bound : Nat) (v : UInt64) : Nat :=
  v.toNat * bound / UInt64.size

/-- The number of words that are accepted for each result below `bound`. -/
def share (bound : Nat) : Nat :=
  2 ^ (63 - bound.log2)

/-- The least word that is accepted for the result `j`. -/
def firstWord (bound j : Nat) : Nat :=
  (j * UInt64.size + (bound - 1)) / bound

theorem share_pos (bound : Nat) : 0 < share bound :=
  Nat.two_pow_pos _

theorem result_lt {bound : Nat} (positive : 0 < bound) (v : UInt64) : result bound v < bound := by
  refine Nat.div_lt_of_lt_mul ?_
  exact Nat.mul_lt_mul_of_pos_right v.toNat_lt positive

/-- The accepted part of a block is no longer than the block. -/
theorem mul_share_le {bound : Nat} (positive : 0 < bound) (inside : bound ≤ UInt64.size) :
    bound * share bound ≤ UInt64.size := by
  by_cases whole : bound = UInt64.size
  · subst whole
    decide
  · have smaller : bound < 2 ^ 64 := Nat.lt_of_le_of_ne inside whole
    have log : bound.log2 < 64 := (Nat.log2_lt positive.ne').2 smaller
    calc bound * share bound ≤ 2 ^ (bound.log2 + 1) * 2 ^ (63 - bound.log2) :=
          Nat.mul_le_mul_right _ Nat.lt_log2_self.le
      _ = UInt64.size := by
          rw [← Nat.pow_add, show bound.log2 + 1 + (63 - bound.log2) = 64 by omega]

/-- The products of the words that are accepted for `j` are at the beginning of the block
of `j`. -/
theorem accepts_iff_product {bound : Nat} (positive : 0 < bound) (inside : bound ≤ UInt64.size)
    (j : Nat) (v : UInt64) :
    Accepts bound v ∧ result bound v = j ↔
      j * UInt64.size ≤ v.toNat * bound ∧
        v.toNat * bound < j * UInt64.size + bound * share bound := by
  have fits := mul_share_le positive inside
  have zone : WordSource.zone bound = bound * share bound - 1 := rfl
  have some : 0 < bound * share bound := Nat.mul_pos positive (share_pos bound)
  rw [Accepts, result, zone]
  generalize v.toNat * bound = product at *
  simp only [UInt64.size] at *
  omega

/-- The words that are accepted for `j` follow on each other. -/
theorem accepts_iff {bound : Nat} (positive : 0 < bound) (inside : bound ≤ UInt64.size)
    (j : Nat) (v : UInt64) :
    Accepts bound v ∧ result bound v = j ↔
      firstWord bound j ≤ v.toNat ∧ v.toNat < firstWord bound j + share bound := by
  have first : ∀ k, firstWord bound j ≤ k ↔ j * UInt64.size ≤ k * bound := by
    intro k
    rw [firstWord, Nat.div_le_iff_le_mul_add_pred positive, Nat.mul_comm bound k]
    omega
  have last : firstWord bound j + share bound ≤ v.toNat ↔
      j * UInt64.size + bound * share bound ≤ v.toNat * bound := by
    by_cases few : v.toNat < share bound
    · have short : v.toNat * bound < bound * share bound := by
        rw [Nat.mul_comm bound]
        exact Nat.mul_lt_mul_of_pos_right few positive
      omega
    · obtain ⟨k, split⟩ := Nat.exists_eq_add_of_le' (Nat.not_lt.1 few)
      rw [split, Nat.add_mul, Nat.mul_comm (share bound), Nat.add_le_add_iff_right,
        Nat.add_le_add_iff_right, first]
  rw [accepts_iff_product positive inside, first, ← Nat.not_le, ← Nat.not_le, last]

/-- What follows on the first accepted word of a result below the bound is a word as well. -/
theorem firstWord_add_share_le {bound j : Nat} (inside : bound ≤ UInt64.size) (below : j < bound) :
    firstWord bound j + share bound ≤ UInt64.size := by
  have positive : 0 < bound := by omega
  have fits := mul_share_le positive inside
  have block : (j + 1) * UInt64.size ≤ bound * UInt64.size := Nat.mul_le_mul_right _ below
  have product : firstWord bound j * bound ≤ j * UInt64.size + (bound - 1) :=
    Nat.div_mul_le_self _ _
  by_contra beyond
  have many : UInt64.size + 1 ≤ firstWord bound j + share bound := Nat.not_le.1 beyond
  have scaled := Nat.mul_le_mul_right bound many
  rw [Nat.add_mul, Nat.add_mul, Nat.mul_comm (share bound), Nat.mul_comm UInt64.size] at scaled
  rw [Nat.add_mul] at block
  omega

/-- **Every result of a draw is made of equally many words.** -/
theorem card_accepts {bound j : Nat} (inside : bound ≤ UInt64.size) (below : j < bound) :
    Nat.card { v : UInt64 // Accepts bound v ∧ result bound v = j } = share bound := by
  have positive : 0 < bound := by omega
  have words := firstWord_add_share_le inside below
  have toNat : ∀ k, k < share bound →
      (UInt64.ofNat (firstWord bound j + k)).toNat = firstWord bound j + k := fun k among =>
    UInt64.toNat_ofNat_of_lt (by omega)
  have accepted : ∀ k : Fin (share bound),
      Accepts bound (UInt64.ofNat (firstWord bound j + k)) ∧
        result bound (UInt64.ofNat (firstWord bound j + k)) = j := by
    intro k
    rw [accepts_iff positive inside, toNat k k.isLt]
    omega
  have bijective : Function.Bijective fun k : Fin (share bound) =>
      (⟨UInt64.ofNat (firstWord bound j + k), accepted k⟩ :
        { v : UInt64 // Accepts bound v ∧ result bound v = j }) := by
    constructor
    · intro k k' same
      have sameWord := congrArg (fun v => v.1.toNat) same
      simp only [toNat k k.isLt, toNat k' k'.isLt] at sameWord
      exact Fin.ext (Nat.add_left_cancel sameWord)
    · rintro ⟨v, taken⟩
      obtain ⟨least, most⟩ := (accepts_iff positive inside j v).1 taken
      refine ⟨⟨v.toNat - firstWord bound j, by omega⟩, Subtype.ext ?_⟩
      simp only [Nat.add_sub_cancel' least, UInt64.ofNat_toNat]
  rw [← Nat.card_eq_of_bijective _ bijective, Nat.card_fin]

/-- Some word is accepted for each result below the bound. -/
theorem exists_accepts {bound j : Nat} (inside : bound ≤ UInt64.size) (below : j < bound) :
    ∃ v, Accepts bound v ∧ result bound v = j := by
  have words : Nat.card { v : UInt64 // Accepts bound v ∧ result bound v = j } ≠ 0 := by
    rw [card_accepts inside below]
    exact (share_pos bound).ne'
  obtain ⟨v, taken⟩ := (Nat.card_ne_zero.1 words).1
  exact ⟨v, taken⟩

/-! ## Draws -/

namespace WordSource

/-- The word source, `count` words on. -/
def after (w : WordSource) (count : Nat) : WordSource :=
  { w with used := w.used + count }

/-- Reading on behind the next word is reading one place further on. -/
theorem used_after_one_add (w : WordSource) (k : Nat) :
    (w.after 1).used + k = w.used + (k + 1) :=
  (Nat.add_assoc _ _ _).trans (congrArg _ (Nat.add_comm 1 k))

/-- The first word that a draw below `bound` accepts has `skipped` words before it. -/
structure FirstAccepted (bound : Nat) (w : WordSource) (skipped : Nat) : Prop where
  rejected : ∀ k, k < skipped → ¬ Accepts bound (w.word (w.used + k))
  accepted : Accepts bound (w.word (w.used + skipped))

theorem drawFrom_of_firstAccepted {bound skipped fuel : Nat} {w : WordSource}
    (first : w.FirstAccepted bound skipped) (enough : skipped < fuel) :
    drawFrom fuel bound w =
      (result bound (w.word (w.used + skipped)), w.after (skipped + 1)) := by
  induction skipped generalizing fuel w with
  | zero =>
      obtain ⟨fuel, rfl⟩ := Nat.exists_eq_add_of_le' enough
      exact if_pos first.accepted
  | succ skipped ih =>
      obtain ⟨fuel, rfl⟩ := Nat.exists_eq_add_of_le' (Nat.zero_lt_of_lt enough)
      have rest : (w.after 1).FirstAccepted bound skipped := by
        constructor
        · intro k before
          rw [used_after_one_add]
          exact first.rejected (k + 1) (by omega)
        · rw [used_after_one_add]
          exact first.accepted
      have passed : drawFrom (fuel + 1) bound w = drawFrom fuel bound (w.after 1) :=
        if_neg (first.rejected 0 (Nat.succ_pos skipped))
      rw [passed, ih rest (by omega), used_after_one_add]
      simp only [after, Nat.add_assoc, Nat.add_comm 1]

/-- A draw gives the result of the first accepted word, and the next one begins behind it. -/
theorem draw_of_firstAccepted {bound skipped : Nat} {w : WordSource}
    (first : w.FirstAccepted bound skipped) (enough : skipped < UInt64.size) :
    w.draw bound = (result bound (w.word (w.used + skipped)), w.after (skipped + 1)) :=
  drawFrom_of_firstAccepted first enough

theorem drawFrom_lt {bound : Nat} (positive : 0 < bound) (fuel : Nat) (w : WordSource) :
    (drawFrom fuel bound w).1 < bound := by
  induction fuel generalizing w with
  | zero => exact positive
  | succ fuel ih =>
      simp only [drawFrom]
      split
      · exact result_lt positive w.next.1
      · exact ih _

end WordSource

end ThemeEditor.Random
