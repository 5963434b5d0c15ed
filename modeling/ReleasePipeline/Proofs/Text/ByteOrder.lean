import Mathlib.Data.String.Basic
import ReleasePipeline.Proofs.Text.Utf8

/-!
# `ReleasePipeline.Proofs.Text.ByteOrder`: texts stand in the order of their bytes

Texts are compared character by character, while what is stored and sent is compared byte by byte.
The encoding of characters keeps their order: of two characters the greater one has the greater
bytes, at the first byte that differs (`utf8EncodeChar_append_lt`). So the two ways to compare
texts come to the same (`bytes_lt_iff`, `bytes_le_iff`).
-/

set_option autoImplicit false

namespace ReleasePipeline.Proofs

/-- The bytes of a text. -/
def bytes (text : String) : List UInt8 :=
  text.toUTF8.data.toList

/-- The bytes of a text are those of its characters. -/
theorem bytes_eq_encode (text : String) : bytes text = encode text.toList := by
  unfold bytes
  rw [← toUTF8_ofList, String.ofList_toList]

/-- Bytes in front are compared as the numbers that they hold. -/
theorem ofNat_cons_lt {n m : Nat} (hn : n < 256) (hm : m < 256) {xs ys : List UInt8} :
    UInt8.ofNat n :: xs < UInt8.ofNat m :: ys ↔ n < m ∨ n = m ∧ xs < ys := by
  rw [List.cons_lt_cons_iff, UInt8.lt_iff_toNat_lt, ← UInt8.toNat_inj, UInt8.toNat_ofNat_of_lt' hn,
    UInt8.toNat_ofNat_of_lt' hm]

/-- Of two characters the greater one has the greater bytes, whatever stands behind them. -/
theorem utf8EncodeChar_append_lt {c d : Char} (h : c < d) (xs ys : List UInt8) :
    String.utf8EncodeChar c ++ xs < String.utf8EncodeChar d ++ ys := by
  have hlt : c.val.toNat < d.val.toNat := h
  have hvalid : d.val.toNat.isValidChar := d.valid
  unfold Nat.isValidChar at hvalid
  -- The bytes of a character are the digits of its number in base 64, behind a mark for their
  -- count.
  have htwo : ∀ n, n / 4096 = n / 64 / 64 := fun n => (Nat.div_div_eq_div_mul n 64 64).symm
  have hthree : ∀ n, n / 262144 = n / 64 / 64 / 64 := by
    intro n
    rw [Nat.div_div_eq_div_mul, Nat.div_div_eq_div_mul]
  unfold String.utf8EncodeChar
  simp only [htwo, hthree]
  generalize c.val.toNat = v at *
  generalize d.val.toNat = w at *
  -- Each of the two has one to four bytes. A greater count has a greater mark.
  split_ifs <;>
    simp (disch := omega) only [List.cons_append, List.nil_append, ofNat_cons_lt] <;> omega

/-- The encoding of texts keeps their order. -/
theorem encode_lt_encode {first second : List Char} (h : first < second) :
    encode first < encode second := by
  induction h with
  | @nil c rest =>
      rw [encode_nil, encode_cons]
      cases hbytes : String.utf8EncodeChar c with
      | nil => exact absurd hbytes String.utf8EncodeChar_ne_nil
      | cons byte more => exact List.nil_lt_cons _ _
  | rel hlt => exact utf8EncodeChar_append_lt hlt _ _
  | cons _ ih => exact List.append_left_lt ih

/-- Texts stand in the order of their bytes. -/
theorem bytes_lt_iff {first second : String} : bytes first < bytes second ↔ first < second := by
  rw [bytes_eq_encode, bytes_eq_encode, String.lt_iff_toList_lt]
  refine ⟨fun h => ?_, encode_lt_encode⟩
  rcases lt_trichotomy first.toList second.toList with hlt | heq | hgt
  · exact hlt
  · rw [heq] at h
    exact absurd h (List.lt_irrefl _)
  · exact absurd (encode_lt_encode hgt) (List.lt_asymm h)

/-- The order of the bytes is the order of the texts. -/
theorem bytes_le_iff {first second : String} : bytes first ≤ bytes second ↔ first ≤ second := by
  rw [← List.not_lt, bytes_lt_iff, not_lt]

end ReleasePipeline.Proofs
