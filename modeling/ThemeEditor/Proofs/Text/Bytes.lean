/-
# ThemeEditor.Proofs.Text.Bytes -- texts as bytes of UTF-8

Texts are ordered by their characters.  That is the order of their bytes
(`lt_iff_bytes_lt`): a smaller character has smaller bytes, whatever follows them
(`utf8EncodeChar_append_lt`).

A text has the bytes of its characters (`utf8ByteSize_ofList`), which are one to four for
each of them (`length_le_size`, `size_le`), and one for each that is ASCII
(`size_of_ascii`).
-/
import Mathlib.Algebra.GroupWithZero.Nat
import Mathlib.Tactic.ByContra
import Mathlib.Tactic.SplitIfs

namespace ThemeEditor.Text

set_option autoImplicit false

open String (utf8EncodeChar)

/-- The bytes of a text. -/
def bytes (s : String) : List UInt8 :=
  s.toUTF8.data.toList

theorem bytes_eq (s : String) : bytes s = s.toList.flatMap utf8EncodeChar := by
  have encoded : s.toByteArray = (s.toList.flatMap utf8EncodeChar).toByteArray :=
    String.utf8Encode_toList.symm
  rw [bytes, String.toUTF8_eq_toByteArray, encoded]
  simp

/-! ## Order -/

/-- A smaller character has smaller bytes, whatever follows. -/
theorem utf8EncodeChar_append_lt {c d : Char} (lt : c < d) (xs ys : List UInt8) :
    utf8EncodeChar c ++ xs < utf8EncodeChar d ++ ys := by
  have below : c.val.toNat < d.val.toNat := UInt32.lt_iff_toNat_lt.1 lt
  have last : d.val.toNat < 0x110000 := by
    have valid := d.valid
    unfold UInt32.isValidChar Nat.isValidChar at valid
    omega
  have twice : ∀ n : Nat, n / 4096 = n / 64 / 64 := fun n => (Nat.div_div_eq_div_mul n 64 64).symm
  have thrice : ∀ n : Nat, n / 262144 = n / 64 / 64 / 64 := fun n => by
    rw [← twice, Nat.div_div_eq_div_mul]
  unfold utf8EncodeChar
  generalize c.val.toNat = m at below
  generalize d.val.toNat = n at below last
  dsimp only
  -- with more bytes the first one is greater, with as many they are digits to the base 64
  split_ifs <;>
    simp only [twice, thrice, List.cons_append, List.nil_append, List.cons_lt_cons_iff,
      UInt8.lt_iff_toNat_lt, ← UInt8.toNat_inj, UInt8.toNat_ofNat'] <;>
    omega

theorem flatMap_lt_flatMap : ∀ {cs ds : List Char}, cs < ds →
    cs.flatMap utf8EncodeChar < ds.flatMap utf8EncodeChar
  | [], d :: ds, _ => by
      have nonempty : utf8EncodeChar d ≠ [] := by
        intro none
        have size := String.length_utf8EncodeChar d
        rw [none] at size
        exact Nat.ne_of_lt d.utf8Size_pos size
      rw [List.flatMap_nil, List.flatMap_cons]
      obtain ⟨b, bs, same⟩ := List.exists_cons_of_ne_nil nonempty
      rw [same]
      exact List.nil_lt_cons _ _
  | c :: cs, d :: ds, lt => by
      rw [List.flatMap_cons, List.flatMap_cons]
      obtain first | ⟨rfl, rest⟩ := List.cons_lt_cons_iff.1 lt
      · exact utf8EncodeChar_append_lt first _ _
      · exact List.append_left_lt (flatMap_lt_flatMap rest)

/-- The order of texts is the order of their bytes. -/
theorem lt_iff_bytes_lt {a b : String} : a < b ↔ bytes a < bytes b := by
  have mono : ∀ {a b : String}, a < b → bytes a < bytes b := by
    intro a b lt
    rw [bytes_eq, bytes_eq]
    exact flatMap_lt_flatMap lt
  constructor
  · exact mono
  · intro lt
    by_contra notLt
    by_cases same : a = b
    · exact List.lt_irrefl _ (same ▸ lt)
    · have gt : b < a := by
        by_contra notGt
        exact same (String.le_antisymm (String.not_lt.1 notGt) (String.not_lt.1 notLt))
      exact List.lt_asymm lt (mono gt)

/-! ## Size -/

/-- The bytes of a text are those of its characters. -/
theorem utf8ByteSize_ofList (cs : List Char) :
    (String.ofList cs).utf8ByteSize = (cs.map Char.utf8Size).sum := by
  induction cs with
  | nil => rfl
  | cons c cs ih =>
      rw [String.ofList_cons, String.utf8ByteSize_append, String.utf8ByteSize_singleton, ih,
        List.map_cons, List.sum_cons]

/-- Each character has at least one byte. -/
theorem length_le_size (cs : List Char) : cs.length ≤ (cs.map Char.utf8Size).sum := by
  induction cs with
  | nil => simp
  | cons c cs ih =>
      have one := c.utf8Size_pos
      simp only [List.length_cons, List.map_cons, List.sum_cons]
      omega

/-- Each character has at most four bytes. -/
theorem size_le (cs : List Char) : (cs.map Char.utf8Size).sum ≤ 4 * cs.length := by
  induction cs with
  | nil => simp
  | cons c cs ih =>
      have four := c.utf8Size_le_four
      simp only [List.length_cons, List.map_cons, List.sum_cons]
      omega

/-- Each ASCII character has one byte. -/
theorem size_of_ascii {cs : List Char} (ascii : ∀ c ∈ cs, c.toNat < 128) :
    (cs.map Char.utf8Size).sum = cs.length := by
  have one : ∀ n ∈ cs.map Char.utf8Size, n = 1 := by
    simp only [List.forall_mem_map]
    intro c member
    rw [Char.utf8Size_eq_one_iff, UInt32.le_iff_toNat_le]
    exact Nat.le_of_lt_succ (ascii c member)
  rw [List.eq_replicate_of_mem one, List.sum_replicate_nat, List.length_map, Nat.mul_one]

end ThemeEditor.Text
