/-
# ThemeEditor.Proofs.Theme.Rotation -- theme files in turn

A fetcher points to one of the files that there are, and there are 99 at most
(`Fetcher.InRange`).  It starts so, and neither claiming a file nor setting another
number of files leads away.  So its numbers never overflow, and the next file is
found as with natural numbers (`InRange.nextIndex_claim`).

Requests are `InRotation` when they ask for the files from the first to the last and
over again.  Any round of as many requests as there are files then reads each of them
once (`InRotation.round`).
-/
import Mathlib.Data.List.Rotate
import ThemeEditor.Theme.Fetcher

namespace ThemeEditor

set_option autoImplicit false

/-! ## One fetcher -/

namespace Fetcher

/-- The next theme file is one that there is. -/
structure InRange (f : Fetcher) : Prop where
  first : 1 ≤ f.nextIndex
  last : f.nextIndex ≤ f.fileCount
  most : f.fileCount ≤ maxFileCount

variable {f : Fetcher}

theorem InRange.toNat (inRange : f.InRange) :
    1 ≤ f.nextIndex.toNat ∧ f.nextIndex.toNat ≤ f.fileCount.toNat ∧ f.fileCount.toNat ≤ 99 :=
  ⟨UInt8.le_iff_toNat_le.1 inRange.first, UInt8.le_iff_toNat_le.1 inRange.last,
    UInt8.le_iff_toNat_le.1 inRange.most⟩

theorem inRange_of_toNat (first : 1 ≤ f.nextIndex.toNat)
    (last : f.nextIndex.toNat ≤ f.fileCount.toNat) (most : f.fileCount.toNat ≤ 99) : f.InRange :=
  ⟨UInt8.le_iff_toNat_le.2 first, UInt8.le_iff_toNat_le.2 last, UInt8.le_iff_toNat_le.2 most⟩

theorem inRange_new : new.InRange :=
  ⟨by decide, by decide, by decide⟩

/-- A number of files that names allow is taken as it is. -/
theorem clampCount_of_range {n : UInt8} (fewest : 1 ≤ n) (most : n ≤ maxFileCount) :
    clampCount n = n := by
  rw [clampCount, if_neg (UInt8.not_lt.2 fewest), if_neg (UInt8.not_lt.2 most)]

theorem clampCount_range (n : UInt8) : 1 ≤ clampCount n ∧ clampCount n ≤ maxFileCount := by
  unfold clampCount
  split
  · decide
  · next fewest =>
    split
    · decide
    · next most => exact ⟨UInt8.not_lt.1 fewest, UInt8.not_lt.1 most⟩

theorem InRange.withFileCount (inRange : f.InRange) (n : UInt8) : (f.withFileCount n).InRange := by
  obtain ⟨fewest, most⟩ := clampCount_range n
  refine ⟨?_, ?_, most⟩
  · simp only [Fetcher.withFileCount]
    split
    · decide
    · exact inRange.first
  · simp only [Fetcher.withFileCount]
    split
    · exact fewest
    · next within => exact UInt8.not_lt.1 within

theorem InRange.mod_lt (inRange : f.InRange) :
    f.nextIndex.toNat % f.fileCount.toNat < f.fileCount.toNat := by
  obtain ⟨first, last, -⟩ := inRange.toNat
  exact Nat.mod_lt _ (first.trans last)

/-- The number of the next file does not overflow. -/
theorem InRange.next_lt_size (inRange : f.InRange) :
    (f.nextIndex % f.fileCount).toNat + 1 < 256 := by
  obtain ⟨-, -, most⟩ := inRange.toNat
  have below := inRange.mod_lt
  rw [UInt8.toNat_mod]
  omega

theorem InRange.nextIndex_claim (inRange : f.InRange) :
    f.claim.2.nextIndex.toNat = f.nextIndex.toNat % f.fileCount.toNat + 1 := by
  have next : f.claim.2.nextIndex = f.nextIndex % f.fileCount + 1 := rfl
  rw [next, UInt8.toNat_add, ← UInt8.toNat_mod]
  exact Nat.mod_eq_of_lt inRange.next_lt_size

theorem InRange.claim (inRange : f.InRange) : f.claim.2.InRange := by
  refine inRange_of_toNat ?_ ?_ inRange.toNat.2.2
  · rw [inRange.nextIndex_claim]
    exact Nat.le_add_left 1 _
  · rw [inRange.nextIndex_claim]
    exact inRange.mod_lt

/-- The fetcher of `count` files after some number of requests. -/
structure At (f : Fetcher) (count requests : Nat) : Prop where
  inRange : f.InRange
  fileCount : f.fileCount.toNat = count
  nextIndex : f.nextIndex.toNat = requests % count + 1

variable {count requests : Nat}

/-- The fetcher of a number of files that names allow starts with the first. -/
theorem at_withFileCount {n : UInt8} (fewest : 1 ≤ n) (most : n ≤ maxFileCount) :
    (new.withFileCount n).At n.toNat 0 where
  inRange := inRange_new.withFileCount n
  fileCount := congrArg UInt8.toNat (clampCount_of_range fewest most)
  nextIndex := by
    have first : (new.withFileCount n).nextIndex = 1 := ite_self 1
    rw [first, Nat.zero_mod]
    rfl

theorem At.claim (at_ : f.At count requests) : f.claim.2.At count (requests + 1) where
  inRange := at_.inRange.claim
  fileCount := at_.fileCount
  nextIndex := by
    rw [at_.inRange.nextIndex_claim, at_.nextIndex, at_.fileCount, Nat.mod_add_mod]

/-- Only the numbers of files count. -/
theorem At.congr {g : Fetcher} (at_ : f.At count requests) (next : g.nextIndex = f.nextIndex)
    (files : g.fileCount = f.fileCount) : g.At count requests where
  inRange := ⟨next ▸ at_.inRange.first, next ▸ files ▸ at_.inRange.last,
    files ▸ at_.inRange.most⟩
  fileCount := files ▸ at_.fileCount
  nextIndex := next ▸ at_.nextIndex

end Fetcher

/-! ## Many requests -/

/-- Requests for the files from 1 to `count`, and over again. -/
structure InRotation (count : Nat) (requests : List UInt8) : Prop where
  nth : ∀ n index, requests[n]? = some index → index.toNat = n % count + 1

namespace InRotation

variable {count : Nat} {requests : List UInt8}

/-- A round of requests turns the files round. -/
theorem map_round {before round after : List UInt8}
    (rotation : InRotation count (before ++ round ++ after)) (whole : round.length = count) :
    round.map UInt8.toNat = (List.range' 1 count).rotate before.length := by
  refine List.ext_getElem (by simp [whole]) fun n within _ => ?_
  rw [List.length_map] at within
  have asked : (before ++ round ++ after)[before.length + n]? = some round[n] := by
    rw [List.append_assoc, List.getElem?_append_right (Nat.le_add_right _ _),
      Nat.add_sub_cancel_left, List.getElem?_append_left within, List.getElem?_eq_getElem within]
  have index := rotation.nth _ _ asked
  rw [Nat.add_comm before.length n] at index
  simp only [List.getElem_map, List.getElem_rotate, List.length_range', List.getElem_range', index]
  omega

/-- As many requests as there are files read each of them once. -/
theorem round (rotation : InRotation count requests) {round : List UInt8}
    (consecutive : round <:+: requests) (whole : round.length = count) :
    (round.map UInt8.toNat).Perm (List.range' 1 count) := by
  obtain ⟨before, after, rfl⟩ := consecutive
  rw [rotation.map_round whole]
  exact List.rotate_perm _ _

theorem nil : InRotation count [] :=
  ⟨nofun⟩

theorem snoc (rotation : InRotation count requests) {index : UInt8}
    (next : index.toNat = requests.length % count + 1) :
    InRotation count (requests ++ [index]) where
  nth n other asked := by
    rw [List.getElem?_append] at asked
    split at asked
    · exact rotation.nth n other asked
    · next beyond =>
      obtain ⟨within, rfl⟩ := List.getElem?_eq_some_iff.1 asked
      have last : n = requests.length := by
        rw [List.length_singleton] at within
        omega
      simpa [last] using next

theorem of_append {more : List UInt8} (rotation : InRotation count (requests ++ more)) :
    InRotation count requests where
  nth n index asked := rotation.nth n index
    ((List.getElem?_append_left (List.getElem?_eq_some_iff.1 asked).1).trans asked)

end InRotation

end ThemeEditor
