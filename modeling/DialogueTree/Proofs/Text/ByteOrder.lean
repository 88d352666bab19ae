import Mathlib.Data.List.Lex
import Mathlib.Tactic.SplitIfs

/-!
# The order of texts

Texts are compared character by character, and so are their bytes in UTF-8: the encodings of two
characters differ within the shorter of the two, in the direction in which the characters differ.

Results:
* `Text.utf8EncodeChar_append_lt`: one character.
* `Text.bytes_lt_bytes`: texts.
-/

namespace DialogueTree.Text

/-- The bytes of a text in UTF-8. -/
def bytes (s : String) : List UInt8 := s.toByteArray.data.toList

theorem bytes_eq_flatMap (s : String) : bytes s = s.toList.flatMap String.utf8EncodeChar := by
  rw [bytes, ← String.utf8Encode_toList, List.utf8Encode, List.toList_data_toByteArray]

theorem ofNat_cons_lt_iff {m n : Nat} (hm : m < 256) (hn : n < 256) {xs ys : List UInt8} :
    UInt8.ofNat m :: xs < UInt8.ofNat n :: ys ↔ m < n ∨ m = n ∧ xs < ys := by
  rw [List.cons_lt_cons_iff, UInt8.lt_iff_toNat_lt, ← UInt8.toNat_inj,
    UInt8.toNat_ofNat_of_lt' hm, UInt8.toNat_ofNat_of_lt' hn]

/-- The encodings of two characters differ before one of them ends, so what follows does not
matter. -/
theorem utf8EncodeChar_append_lt {c d : Char} (h : c < d) (xs ys : List UInt8) :
    String.utf8EncodeChar c ++ xs < String.utf8EncodeChar d ++ ys := by
  have hlt : c.val.toNat < d.val.toNat := h
  have hd : d.val.toNat < 0x110000 := by
    have hvalid := d.valid
    simp only [UInt32.isValidChar, Nat.isValidChar] at hvalid
    omega
  unfold String.utf8EncodeChar
  generalize c.val.toNat = m at hlt
  generalize d.val.toNat = n at hlt hd
  -- Digits are of 64 values; no character needs more than the 8 values that the first one has.
  have hm₁ : m / 4096 = m / 64 / 64 := (Nat.div_div_eq_div_mul m 64 64).symm
  have hm₂ : m / 262144 % 8 = m / 64 / 64 / 64 := by omega
  have hn₁ : n / 4096 = n / 64 / 64 := (Nat.div_div_eq_div_mul n 64 64).symm
  have hn₂ : n / 262144 % 8 = n / 64 / 64 / 64 := by omega
  dsimp only
  rw [hm₁, hm₂, hn₁, hn₂]
  split_ifs
  all_goals
    simp (disch := omega) only [List.cons_append, List.nil_append, ofNat_cons_lt_iff]
    omega

theorem flatMap_utf8EncodeChar_lt {cs ds : List Char} (h : cs < ds) :
    cs.flatMap String.utf8EncodeChar < ds.flatMap String.utf8EncodeChar := by
  induction h with
  | @nil d ds =>
    cases hd : String.utf8EncodeChar d with
    | nil => exact absurd hd String.utf8EncodeChar_ne_nil
    | cons b bs =>
      rw [List.flatMap_cons, hd]
      exact List.nil_lt_cons ..
  | rel h => exact utf8EncodeChar_append_lt h ..
  | cons _ ih => exact List.append_left_lt ih

theorem bytes_lt_of_lt {a b : String} (h : a < b) : bytes a < bytes b := by
  rw [bytes_eq_flatMap, bytes_eq_flatMap]
  exact flatMap_utf8EncodeChar_lt h

/-- The order of texts is that of their bytes. -/
theorem bytes_lt_bytes {a b : String} : bytes a < bytes b ↔ a < b := by
  refine ⟨fun h => ?_, bytes_lt_of_lt⟩
  by_contra hnot
  have hba : b ≤ a := String.not_lt.mp hnot
  by_cases hab : a ≤ b
  · rw [String.le_antisymm hab hba] at h
    exact List.lt_irrefl _ h
  · exact List.lt_asymm h (bytes_lt_of_lt (String.not_le.mp hab))

end DialogueTree.Text
