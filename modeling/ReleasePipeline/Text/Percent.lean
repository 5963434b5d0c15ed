import ReleasePipeline.Text.Lossy
import ReleasePipeline.Text.Radix

/-!
# `ReleasePipeline.Text.Percent`: bytes behind percent signs

A character that cannot stand somewhere is written as its bytes, each of them as a percent sign and
two hexadecimal digits.
-/

set_option autoImplicit false

namespace ReleasePipeline.Text

/-- A byte as a percent sign and two digits. -/
def percentByte (b : UInt8) : List Char :=
  ['%', upperHex (b.toNat / 16), upperHex (b.toNat % 16)]

/-- The bytes of a character behind percent signs. -/
def percent (c : Char) : List Char :=
  (String.utf8EncodeChar c).flatMap percentByte

/-- Writes the characters that cannot stand here as their bytes. All but those that ASCII shows are
among them. -/
def percentEncode (special : List Char) (text : List Char) : List Char :=
  text.flatMap fun c =>
    if c.toNat < 0x20 ∨ 0x7e < c.toNat ∨ c ∈ special then percent c else [c]

/-- The byte of two hexadecimal digits. -/
def byteOfDigits? (high low : Char) : Option UInt8 := do
  let high ← hexDigit? high
  let low ← hexDigit? low
  some (UInt8.ofNat (high * 16 + low))

/-- The bytes of a text, where some may be behind percent signs. A percent sign without two digits
behind it is a character like any other. -/
def percentDecode : List Char → List UInt8
  | [] => []
  | '%' :: high :: low :: after =>
    match byteOfDigits? high low with
    | some byte => byte :: percentDecode after
    | none => String.utf8EncodeChar '%' ++ percentDecode (high :: low :: after)
  | c :: rest => String.utf8EncodeChar c ++ percentDecode rest

end ReleasePipeline.Text
