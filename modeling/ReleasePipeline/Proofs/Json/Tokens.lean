import ReleasePipeline.Json.Printer
import ReleasePipeline.Proofs.Text.Decimal
import ReleasePipeline.Proofs.Text.Utf8

/-!
# `ReleasePipeline.Proofs.Json.Tokens`: strings and numbers are read as they were written

The parser works on bytes and takes a string apart into pieces before it puts a text together. So
the way back from a written string goes through `piecesOf`, the pieces that one character leaves
behind: its escape, or its bytes. `stringValue_written` is the result for strings and
`integerValue_digits` the one for the digits of an integer.
-/

set_option autoImplicit false

namespace ReleasePipeline.Proofs

open Json (octet Piece stringPieces pieceBytes pieceText stringValue hexUnit hexDigit shortEscape
  isLead isTrail digitsWithin isDigit integerValue unsignedNumber maxWord escape quoted)

/-! ### Strings -/

/-- Puts pieces in front of those that were found. -/
def Scan.prepend (pieces : List Piece) (scan : Scan (List Piece)) : Scan (List Piece) :=
  ⟨pieces ++ scan.found, scan.rest⟩

/-- Whether a byte stands for itself in a string. -/
def IsPlain (b : UInt8) : Prop :=
  b ≠ octet '"' ∧ b ≠ octet '\\' ∧ ¬ b < 0x20

/-- A quote ends the string. -/
theorem stringPieces_quote (rest : List UInt8) :
    stringPieces (octet '"' :: rest) = ⟨[], .ok rest⟩ := by
  rw [Json.stringPieces.eq_def]
  rfl

/-- A short escape is read as the byte it stands for. -/
theorem stringPieces_short {e byte : UInt8} (hu : e ≠ octet 'u') (h : shortEscape e = some byte)
    (rest : List UInt8) :
    stringPieces (octet '\\' :: e :: rest) = Scan.prepend [.octet byte] (stringPieces rest) := by
  have hquote : octet '\\' ≠ octet '"' := by decide
  rw [Json.stringPieces.eq_def]
  simp only [if_neg hquote, if_true, if_neg hu, h]
  rfl

/-- Four hexadecimal digits are read as the number they write. -/
theorem stringPieces_unit {a b c d : UInt8} {code : Nat} (h : hexUnit a b c d = some code)
    (rest : List UInt8) :
    stringPieces (octet '\\' :: octet 'u' :: a :: b :: c :: d :: rest) =
      Scan.prepend [.unit code] (stringPieces rest) := by
  have hquote : octet '\\' ≠ octet '"' := by decide
  rw [Json.stringPieces.eq_def]
  simp only [if_neg hquote, if_true, h]
  rfl

/-- Bytes that stand for themselves are read one by one. -/
theorem stringPieces_plain {bytes : List UInt8} (h : ∀ b ∈ bytes, IsPlain b) (rest : List UInt8) :
    stringPieces (bytes ++ rest) = Scan.prepend (bytes.map .octet) (stringPieces rest) := by
  induction bytes with
  | nil => rfl
  | cons b more ih =>
      obtain ⟨⟨hquote, hslash, hlow⟩, hmore⟩ := List.forall_mem_cons.mp h
      rw [List.cons_append, Json.stringPieces.eq_def]
      simp only [if_neg hquote, if_neg hslash, if_neg hlow, ih hmore]
      rfl

/-- Whether a character is written with four hexadecimal digits. -/
def IsCoded (c : Char) : Prop :=
  c.toNat < 0x20 ∧ c ≠ '\x08' ∧ c ≠ '\x0c' ∧ c ≠ '\n' ∧ c ≠ '\r' ∧ c ≠ '\t'

instance (c : Char) : Decidable (IsCoded c) := by
  unfold IsCoded
  infer_instance

/-- The pieces that a character leaves behind in a string: the number it is written with, or its
bytes. -/
def piecesOf (c : Char) : List Piece :=
  if IsCoded c then [.unit c.toNat] else (String.utf8EncodeChar c).map .octet

/-- The text of a character that is written with four hexadecimal digits. -/
theorem escape_of_isCoded {c : Char} (h : IsCoded c) :
    escape c = ['\\', 'u', '0', '0', hexDigit (c.toNat / 16), hexDigit (c.toNat % 16)] := by
  obtain ⟨hlow, hb, hf, hn, hr, ht⟩ := h
  have hquote : c ≠ '"' := by rintro rfl; exact absurd hlow (by decide)
  have hslash : c ≠ '\\' := by rintro rfl; exact absurd hlow (by decide)
  simp only [escape, hquote, hslash, hb, hf, hn, hr, ht, hlow, if_false, if_true]

/-- A hexadecimal digit is a character of ASCII. -/
theorem encode_hexDigit : ∀ n : Fin 16, encode [hexDigit n.val] = [octet (hexDigit n.val)] := by
  decide

/-- The four digits of a character are read as its number. -/
theorem hexUnit_hexDigit : ∀ n : Fin 32, hexUnit (octet '0') (octet '0')
    (octet (hexDigit (n.val / 16))) (octet (hexDigit (n.val % 16))) = some n.val := by
  decide

/-- A character that is written with four digits is read as its number. -/
theorem stringPieces_coded {c : Char} (h : IsCoded c) (rest : List UInt8) :
    stringPieces (encode (escape c) ++ rest) =
      Scan.prepend [.unit c.toNat] (stringPieces rest) := by
  -- There are only 16 digits and 32 such characters, so each table is checked entry by entry.
  have hhigh := encode_hexDigit ⟨c.toNat / 16, by have := h.1; omega⟩
  have hlow := encode_hexDigit ⟨c.toNat % 16, by omega⟩
  have hunit := hexUnit_hexDigit ⟨c.toNat, h.1⟩
  have hbytes : encode (escape c) = octet '\\' :: octet 'u' :: octet '0' :: octet '0' ::
      octet (hexDigit (c.toNat / 16)) :: octet (hexDigit (c.toNat % 16)) :: [] := by
    rw [escape_of_isCoded h]
    show encode (['\\', 'u', '0', '0'] ++ ([hexDigit (c.toNat / 16)] ++
      [hexDigit (c.toNat % 16)])) = _
    rw [encode_append, encode_append, hhigh, hlow]
    rfl
  rw [hbytes]
  exact stringPieces_unit hunit rest

/-- The octets of two characters of ASCII differ as the characters do. -/
theorem octet_injective {c d : Char} (hc : c.toNat < 128) (hd : d.toNat < 128)
    (h : octet c = octet d) : c = d := by
  have hnat := congrArg UInt8.toNat h
  rw [octet, octet, UInt8.toNat_ofNat', UInt8.toNat_ofNat', Nat.mod_eq_of_lt (by omega),
    Nat.mod_eq_of_lt (by omega)] at hnat
  exact Char.toNat_inj.mp hnat

/-- A character that is written as itself has bytes that stand for themselves. -/
theorem isPlain_of_mem_utf8EncodeChar {c : Char} (hquote : c ≠ '"') (hslash : c ≠ '\\')
    (hlow : ¬ c.toNat < 0x20) {b : UInt8} (hb : b ∈ String.utf8EncodeChar c) : IsPlain b := by
  by_cases hascii : c.toNat < 128
  · rw [utf8EncodeChar_ascii hascii, List.mem_singleton] at hb
    subst hb
    refine ⟨fun h => hquote (octet_injective hascii (by decide) h),
      fun h => hslash (octet_injective hascii (by decide) h), ?_⟩
    rw [UInt8.lt_iff_toNat_lt, octet, UInt8.toNat_ofNat', Nat.mod_eq_of_lt (by omega)]
    exact hlow
  · -- Every byte of such a character lies above the quote, the backslash and the blank.
    have hhigh := le_of_mem_utf8EncodeChar (Nat.le_of_not_lt hascii) hb
    refine ⟨?_, ?_, ?_⟩
    · rintro rfl
      exact absurd hhigh (by decide)
    · rintro rfl
      exact absurd hhigh (by decide)
    · rw [UInt8.lt_iff_toNat_lt]
      show ¬ b.toNat < 0x20
      omega

/-- A character is read as the pieces it leaves behind. -/
theorem stringPieces_escape (c : Char) (rest : List UInt8) :
    stringPieces (encode (escape c) ++ rest) = Scan.prepend (piecesOf c) (stringPieces rest) := by
  by_cases hcoded : IsCoded c
  · rw [stringPieces_coded hcoded, piecesOf, if_pos hcoded]
  · rw [piecesOf, if_neg hcoded]
    -- The cases are those of `escape`, in its order.
    by_cases hquote : c = '"'
    · subst hquote
      exact stringPieces_short (by decide) rfl rest
    by_cases hslash : c = '\\'
    · subst hslash
      exact stringPieces_short (by decide) rfl rest
    by_cases hb : c = '\x08'
    · subst hb
      exact stringPieces_short (by decide) rfl rest
    by_cases hf : c = '\x0c'
    · subst hf
      exact stringPieces_short (by decide) rfl rest
    by_cases hn : c = '\n'
    · subst hn
      exact stringPieces_short (by decide) rfl rest
    by_cases hr : c = '\r'
    · subst hr
      exact stringPieces_short (by decide) rfl rest
    by_cases ht : c = '\t'
    · subst ht
      exact stringPieces_short (by decide) rfl rest
    -- Of the characters below the blank only the coded ones are left, so this one is plain.
    have hlow : ¬ c.toNat < 0x20 := fun hlow => hcoded ⟨hlow, hb, hf, hn, hr, ht⟩
    have hself : escape c = [c] := by
      simp only [escape, hquote, hslash, hb, hf, hn, hr, ht, hlow, if_false]
    rw [hself, encode_cons, encode_nil, List.append_nil]
    exact stringPieces_plain (fun b => isPlain_of_mem_utf8EncodeChar hquote hslash hlow) rest

/-- A string is read as the pieces of its characters, up to the quote at its end. -/
theorem stringPieces_quoted (text : List Char) (rest : List UInt8) :
    stringPieces (encode (text.flatMap escape ++ ['"']) ++ rest) =
      ⟨text.flatMap piecesOf, .ok rest⟩ := by
  induction text with
  | nil => exact stringPieces_quote rest
  | cons c more ih =>
      rw [List.flatMap_cons, List.append_assoc, encode_append, List.append_assoc,
        stringPieces_escape, ih]
      rfl

/-- Bytes that stand for themselves are kept. -/
theorem pieceBytes_octets (ending : Fault) (bytes : List UInt8) (pieces : List Piece) :
    pieceBytes ending (bytes.map .octet ++ pieces) =
      (pieceBytes ending pieces).map (bytes ++ ·) := by
  induction bytes with
  | nil =>
      rw [List.map_nil, List.nil_append]
      cases pieceBytes ending pieces <;> rfl
  | cons b more ih =>
      show (pieceBytes ending (more.map .octet ++ pieces)).bind (fun bytes => pure (b :: bytes)) = _
      rw [ih]
      cases pieceBytes ending pieces <;> rfl

/-- The pieces of a character stand for its bytes. -/
theorem pieceBytes_piecesOf (ending : Fault) (c : Char) (pieces : List Piece) :
    pieceBytes ending (piecesOf c ++ pieces) =
      (pieceBytes ending pieces).map (String.utf8EncodeChar c ++ ·) := by
  by_cases hcoded : IsCoded c
  · -- A character this low is no half of a surrogate pair, so its number stands alone.
    have hlow := hcoded.1
    have hlead : isLead c.toNat = false := by simp [isLead]; omega
    have htrail : isTrail c.toNat = false := by simp [isTrail]; omega
    rw [piecesOf, if_pos hcoded, List.cons_append, List.nil_append, Json.pieceBytes.eq_def]
    simp only [hlead, htrail, Char.ofNat_toNat]
    cases pieceBytes ending pieces <;> rfl
  · rw [piecesOf, if_neg hcoded]
    exact pieceBytes_octets ending _ pieces

/-- The pieces of a text stand for its bytes. -/
theorem pieceBytes_text (ending : Fault) (text : List Char) :
    pieceBytes ending (text.flatMap piecesOf) = .ok (encode text) := by
  induction text with
  | nil => rfl
  | cons c more ih =>
      rw [List.flatMap_cons, pieceBytes_piecesOf, ih]
      rfl

/-- The pieces of a string are read as its text. -/
theorem pieceText_written (text : String) (rest : List UInt8) :
    pieceText ⟨text.toList.flatMap piecesOf, .ok rest⟩ = .ok text := by
  unfold pieceText
  simp only [pieceBytes_text, fromUTF8_encode]

/-- A string behind its quote is read as its text. -/
theorem stringValue_written (text : String) (rest : List UInt8) :
    stringValue (encode (text.toList.flatMap escape ++ ['"']) ++ rest) = ⟨.str text, .ok rest⟩ := by
  unfold stringValue
  rw [stringPieces_quoted]
  simp only [pieceText_written]

/-! ### Numbers -/

/-- What cannot go on with a number: the end, or a byte that ends a value in a written text. -/
def Stops : List UInt8 → Prop
  | [] => True
  | b :: _ => b = octet ',' ∨ b = octet ']' ∨ b = octet '\x7d' ∨ b = octet '\n'

/-- A byte that ends a value is no digit. -/
theorem Stops.not_isDigit {b : UInt8} {rest : List UInt8} (h : Stops (b :: rest)) :
    isDigit b = false := by
  rcases h with rfl | rfl | rfl | rfl <;> decide

/-- The byte of a digit has the number of the character. -/
theorem toNat_octet {c : Char} (h : c.toNat < 128) : (octet c).toNat = c.toNat := by
  rw [octet, UInt8.toNat_ofNat', Nat.mod_eq_of_lt (by omega)]

/-- A digit is a digit as a byte. -/
theorem isDigit_octet {c : Char} (h : c.isDigit = true) : isDigit (octet c) = true := by
  have hrange := toNat_of_isDigit h
  have hnat : (octet c).toNat = c.toNat := toNat_octet (by omega)
  simp only [isDigit, UInt8.le_iff_toNat_le, hnat, Bool.and_eq_true, decide_eq_true_eq]
  exact hrange

/-- Digits whose number is within the limit are all read. -/
theorem digitsWithin_octets {limit : Nat} {text : List Char}
    (hdigits : ∀ c ∈ text, c.isDigit = true) {value : Nat}
    (hlimit : valueBehind value text ≤ limit) :
    digitsWithin limit value (text.map octet) = (valueBehind value text, []) := by
  induction text generalizing value with
  | nil => rfl
  | cons c rest ih =>
      obtain ⟨hc, hrest⟩ := List.forall_mem_cons.mp hdigits
      have hdigit : (octet c).toNat - 0x30 = Text.digitValue c := by
        rw [toNat_octet (by have := toNat_of_isDigit hc; omega)]
        rfl
      rw [valueBehind_cons] at hlimit ⊢
      -- More digits only make the number greater, so on the way it never passes the limit either.
      have hnext : value * 10 + Text.digitValue c ≤ limit :=
        Nat.le_trans (le_valueBehind _ rest) hlimit
      rw [List.map_cons, digitsWithin, hdigit]
      exact (if_pos hnext).trans (ih hrest hlimit)

/-- The digits of a number that a word can hold are read as the number. -/
theorem digitsWithin_digits {n : Nat} (h : n ≤ maxWord) :
    digitsWithin maxWord 0 ((Text.digits n).map octet) = (n, []) := by
  have hvalue : valueBehind 0 (Text.digits n) = n := valueOfDigits_digits n
  have hread := digitsWithin_octets (fun c => @isDigit_of_mem_digits n c)
    (show valueBehind 0 (Text.digits n) ≤ maxWord by rw [hvalue]; exact h)
  rwa [hvalue] at hread

/-- The digits of a number are bytes of ASCII. -/
theorem encode_digits (n : Nat) : encode (Text.digits n) = (Text.digits n).map octet := by
  refine encode_ascii fun c hc => ?_
  have hrange := toNat_of_isDigit (isDigit_of_mem_digits hc)
  omega

section
variable {whole rest : List UInt8}

/-- Digits are taken up to where the number stops. -/
theorem takeWhile_isDigit (hwhole : ∀ b ∈ whole, isDigit b = true) (hrest : Stops rest) :
    (whole ++ rest).takeWhile isDigit = whole := by
  rw [List.takeWhile_append_of_pos hwhole]
  cases rest with
  | nil => exact List.append_nil whole
  | cons b after =>
      rw [List.takeWhile_cons, hrest.not_isDigit]
      exact List.append_nil whole

/-- What stands behind the digits is left. -/
theorem dropWhile_isDigit (hwhole : ∀ b ∈ whole, isDigit b = true) (hrest : Stops rest) :
    (whole ++ rest).dropWhile isDigit = rest := by
  rw [List.dropWhile_append_of_pos hwhole]
  cases rest with
  | nil => rfl
  | cons b after =>
      rw [List.dropWhile_cons, hrest.not_isDigit]
      rfl

/-- Where a number stops it has neither a fraction nor an exponent. -/
theorem afterWhole_stops (negative : Bool) (whole : List UInt8) (hrest : Stops rest) :
    Json.afterWhole negative whole rest = ⟨integerValue negative whole, .ok rest⟩ := by
  cases rest with
  | nil => rfl
  | cons b after =>
      have hdot : b ≠ octet '.' := by
        rcases hrest with rfl | rfl | rfl | rfl <;> decide
      have hexp : ¬ (b = octet 'e' ∨ b = octet 'E') := by
        rcases hrest with rfl | rfl | rfl | rfl <;> decide
      simp only [Json.afterWhole, if_neg hdot, if_neg hexp]

/-- The digits of a number are read as an integer, up to where they stop. -/
theorem unsignedNumber_digits (negative : Bool) (n : Nat) (hrest : Stops rest) :
    unsignedNumber negative (encode (Text.digits n) ++ rest) =
      ⟨integerValue negative ((Text.digits n).map octet), .ok rest⟩ := by
  have hall : ∀ b ∈ (Text.digits n).map octet, isDigit b = true := by
    intro b hb
    obtain ⟨c, hc, rfl⟩ := List.mem_map.mp hb
    exact isDigit_octet (isDigit_of_mem_digits hc)
  rw [encode_digits, ← afterWhole_stops negative _ hrest]
  unfold unsignedNumber
  rw [takeWhile_isDigit hall hrest, dropWhile_isDigit hall hrest]
  cases hdigits : Text.digits n with
  | nil => exact absurd hdigits (digits_ne_nil n)
  | cons first more =>
      -- A leading zero would be refused, but a written number has one only if it is zero.
      refine if_neg ?_
      rintro ⟨hzero, hmore⟩
      have hfirst : first.isDigit = true := isDigit_of_mem_digits (hdigits ▸ List.mem_cons_self)
      have hrange := toNat_of_isDigit hfirst
      rw [octet_injective (by omega) (by decide) hzero] at hdigits
      exact hmore (by rw [eq_nil_of_digits_eq_zero_cons hdigits]; rfl)

end

/-- Digits without a sign are read as the number. -/
theorem integerValue_digits {n : Nat} (h : n ≤ maxWord) :
    integerValue false ((Text.digits n).map octet) = .int n := by
  unfold integerValue
  rw [digitsWithin_digits h]
  rfl

/-- Digits behind a minus sign are read as the negative number. -/
theorem integerValue_neg_digits {n : Nat} (hpos : n ≠ 0) (h : n ≤ 9223372036854775808) :
    integerValue true ((Text.digits n).map octet) = .int (-n) := by
  unfold integerValue
  have hboth : n ≠ 0 ∧ n ≤ 9223372036854775808 := ⟨hpos, h⟩
  rw [digitsWithin_digits (Nat.le_trans h (by decide))]
  exact if_pos hboth

end ReleasePipeline.Proofs
