import ReleasePipeline.Json.Parser

/-!
# `ReleasePipeline.Proofs.Text.Utf8`: the bytes of a text

Texts are written as characters and read as bytes. `encode` is the way from the one to the other.
A character of ASCII is one byte, its `octet`, and every byte of any other character lies above
ASCII (`le_of_mem_utf8EncodeChar`). So a byte that means something to a parser never comes from
inside another character.
-/

set_option autoImplicit false

namespace ReleasePipeline.Proofs

open Json (octet)

/-- The bytes of a text. -/
def encode (text : List Char) : List UInt8 :=
  text.flatMap String.utf8EncodeChar

/-- No text has no bytes. -/
theorem encode_nil : encode [] = [] :=
  rfl

/-- The bytes of a character stand in front of those of the rest. -/
theorem encode_cons (c : Char) (rest : List Char) :
    encode (c :: rest) = String.utf8EncodeChar c ++ encode rest :=
  rfl

/-- The bytes of two texts stand behind each other. -/
theorem encode_append (first second : List Char) :
    encode (first ++ second) = encode first ++ encode second :=
  List.flatMap_append

/-- A text is written to a file as its bytes. -/
theorem toUTF8_ofList (text : List Char) :
    (String.ofList text).toUTF8.data.toList = encode text := by
  rw [String.toUTF8_eq_toByteArray, String.toByteArray_ofList, List.utf8Encode,
    List.data_toByteArray]
  rfl

/-- The bytes of a text are read as the text. -/
theorem fromUTF8_encode (text : String) :
    String.fromUTF8? ⟨(encode text.toList).toArray⟩ = some text := by
  have hbytes : (⟨(encode text.toList).toArray⟩ : ByteArray) = text.toByteArray := by
    rw [← String.utf8Encode_toList, List.utf8Encode]
    apply ByteArray.ext
    rw [List.data_toByteArray]
    rfl
  rw [hbytes, String.fromUTF8?, dif_pos text.isValidUTF8]
  rfl

/-- A character of ASCII is one byte. -/
theorem utf8EncodeChar_ascii {c : Char} (h : c.toNat < 128) :
    String.utf8EncodeChar c = [octet c] := by
  have hle : c.val.toNat ≤ 0x7f := Nat.le_of_lt_succ h
  unfold String.utf8EncodeChar
  exact if_pos hle

/-- So it stands in front of the rest as that byte. -/
theorem encode_cons_ascii {c : Char} (h : c.toNat < 128) (rest : List Char) :
    encode (c :: rest) = octet c :: encode rest := by
  rw [encode_cons, utf8EncodeChar_ascii h]
  rfl

/-- The bytes of any other character lie above ASCII. -/
theorem le_of_mem_utf8EncodeChar {c : Char} (h : 128 ≤ c.toNat) {b : UInt8}
    (hb : b ∈ String.utf8EncodeChar c) : 128 ≤ b.toNat := by
  have hnot : ¬ c.val.toNat ≤ 0x7f := Nat.not_le.mpr h
  unfold String.utf8EncodeChar at hb
  rw [if_neg hnot] at hb
  -- Each byte is a remainder on top of a mark of at least 128, and fits into a byte.
  have hbyte : ∀ rest mark bound : Nat, 128 ≤ mark → mark + bound ≤ 256 → rest < bound →
      128 ≤ (UInt8.ofNat (rest + mark)).toNat := by
    intro rest mark bound hmark hfits hrest
    rw [UInt8.toNat_ofNat', Nat.mod_eq_of_lt (by omega)]
    omega
  -- Characters of two, three and four bytes.
  split at hb
  · rcases List.mem_cons.mp hb with rfl | hb
    · exact hbyte _ 0xc0 0x20 (by decide) (by decide) (Nat.mod_lt _ (by decide))
    · rw [List.mem_singleton.mp hb]
      exact hbyte _ 0x80 0x40 (by decide) (by decide) (Nat.mod_lt _ (by decide))
  · split at hb
    · rcases List.mem_cons.mp hb with rfl | hb
      · exact hbyte _ 0xe0 0x10 (by decide) (by decide) (Nat.mod_lt _ (by decide))
      · rcases List.mem_cons.mp hb with rfl | hb
        · exact hbyte _ 0x80 0x40 (by decide) (by decide) (Nat.mod_lt _ (by decide))
        · rw [List.mem_singleton.mp hb]
          exact hbyte _ 0x80 0x40 (by decide) (by decide) (Nat.mod_lt _ (by decide))
    · rcases List.mem_cons.mp hb with rfl | hb
      · exact hbyte _ 0xf0 0x08 (by decide) (by decide) (Nat.mod_lt _ (by decide))
      · rcases List.mem_cons.mp hb with rfl | hb
        · exact hbyte _ 0x80 0x40 (by decide) (by decide) (Nat.mod_lt _ (by decide))
        · rcases List.mem_cons.mp hb with rfl | hb
          · exact hbyte _ 0x80 0x40 (by decide) (by decide) (Nat.mod_lt _ (by decide))
          · rw [List.mem_singleton.mp hb]
            exact hbyte _ 0x80 0x40 (by decide) (by decide) (Nat.mod_lt _ (by decide))

/-- A text of ASCII has one byte for each character. -/
theorem encode_ascii {text : List Char} (h : ∀ c ∈ text, c.toNat < 128) :
    encode text = text.map octet := by
  induction text with
  | nil => rfl
  | cons c rest ih =>
      obtain ⟨hc, hrest⟩ := List.forall_mem_cons.mp h
      rw [encode_cons_ascii hc, ih hrest, List.map_cons]

end ReleasePipeline.Proofs
