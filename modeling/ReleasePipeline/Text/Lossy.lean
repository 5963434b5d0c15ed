/-!
# `ReleasePipeline.Text.Lossy`: text from bytes that may not be UTF-8

Captured output is shown as text whatever its bytes are. Every well-formed sequence becomes its
character, and every maximal part that begins like a sequence but does not complete it becomes
one replacement character, as the Unicode standard recommends.
-/

set_option autoImplicit false

namespace ReleasePipeline.Text

/-- The character shown for bytes that are not part of one. -/
def replacement : Char := '\uFFFD'

/-- The six payload bits of a continuation byte. -/
def payload (b : UInt8) : Nat :=
  b.toNat % 64

/-- Whether a byte lies in a range. -/
def inRange (b : UInt8) (low high : Nat) : Bool :=
  low ≤ b.toNat && b.toNat ≤ high

/-- What a leading byte announces: the bits it carries, the range of the second byte and the
number of plain continuation bytes after that one. `none` for a byte that leads nothing. -/
def leading (b : UInt8) : Option (Nat × (Nat × Nat) × Nat) :=
  let n := b.toNat
  -- The narrow ranges shut out forms that are longer than needed, surrogates, and numbers beyond
  -- the last character.
  if 0xc2 ≤ n && n ≤ 0xdf then some (n % 32, (0x80, 0xbf), 0)
  else if n == 0xe0 then some (n % 16, (0xa0, 0xbf), 1)
  else if n == 0xed then some (n % 16, (0x80, 0x9f), 1)
  else if 0xe1 ≤ n && n ≤ 0xef then some (n % 16, (0x80, 0xbf), 1)
  else if n == 0xf0 then some (n % 8, (0x90, 0xbf), 2)
  else if 0xf1 ≤ n && n ≤ 0xf3 then some (n % 8, (0x80, 0xbf), 2)
  else if n == 0xf4 then some (n % 8, (0x80, 0x8f), 2)
  else none

/-- Takes the plain continuation bytes of a sequence. The character is the replacement when one
of them is missing, and the rest begins at the first byte that is not part of the sequence. -/
def continuation (bits : Nat) : Nat → List UInt8 → Char × List UInt8
  | 0, rest => (Char.ofNat bits, rest)
  | _ + 1, [] => (replacement, [])
  | missing + 1, b :: rest =>
    if inRange b 0x80 0xbf then continuation (bits * 64 + payload b) missing rest
    else (replacement, b :: rest)

/-- The character that begins with a given byte, and the bytes after it. -/
def charFrom (b : UInt8) (rest : List UInt8) : Char × List UInt8 :=
  if b.toNat < 0x80 then (Char.ofNat b.toNat, rest)
  else
    match leading b, rest with
    | some (bits, (low, high), more), second :: after =>
      if inRange second low high then continuation (bits * 64 + payload second) more after
      else (replacement, rest)
    | _, _ => (replacement, rest)

/-- Taking continuation bytes leaves no more bytes than there were. -/
theorem length_continuation_le (missing : Nat) :
    ∀ (bits : Nat) (bytes : List UInt8),
      (continuation bits missing bytes).2.length ≤ bytes.length := by
  induction missing with
  | zero => intro bits bytes; simp [continuation]
  | succ k ih =>
    intro bits bytes
    cases bytes with
    | nil => simp [continuation]
    | cons b rest =>
      simp only [continuation]
      split
      · exact Nat.le_trans (ih _ rest) (by simp)
      · simp

/-- Neither does a character, so that decoding comes to an end. -/
theorem length_charFrom_le (b : UInt8) (rest : List UInt8) :
    (charFrom b rest).2.length ≤ rest.length := by
  unfold charFrom
  split
  · simp
  · split
    · split
      · exact Nat.le_trans (length_continuation_le _ _ _) (by simp)
      · simp
    · simp

/-- The characters of a byte sequence. -/
def lossyChars : List UInt8 → List Char
  | [] => []
  | b :: rest => (charFrom b rest).1 :: lossyChars (charFrom b rest).2
termination_by bytes => bytes.length
decreasing_by exact Nat.lt_succ_of_le (length_charFrom_le b rest)

/-- The text of a byte sequence. -/
def lossy (bytes : ByteArray) : String :=
  String.ofList (lossyChars bytes.data.toList)

end ReleasePipeline.Text
