import ReleasePipeline.Json.Basic

/-!
# `ReleasePipeline.Json.Parser`: reading a text of bytes

The parser never fails: it returns what it found together with the bytes after it, or with the
fault that made it stop. Two kinds of fault leave the rest of the text readable and stay inside
the `Reading`: a string whose bytes or surrogates are no text, and a number too large for any
number format. A reader that skips such a value does not mind it.

Bytes are read one at a time, so a text that breaks off inside a character is simply a text that
ends early. The loops count down a fuel that starts above the number of bytes; every step takes
a byte, so it never runs out.
-/

set_option autoImplicit false

namespace ReleasePipeline

/-- What was found, and the bytes after it or the fault that ended the reading. -/
structure Scan (α : Type) where
  found : α
  rest : Except Fault (List UInt8)

/-- The fault that stopped a scan, if one did. -/
def Scan.tear {α : Type} (scan : Scan α) : Option Fault :=
  match scan.rest with
  | .ok _ => none
  | .error fault => some fault

/-- A container that holds one thing more in front. -/
def Scan.cons {α : Type} (first : α) (scan : Scan (List α)) : Scan (List α) :=
  ⟨first :: scan.found, scan.rest⟩

namespace Json

/-- The byte of an ASCII character. -/
def octet (c : Char) : UInt8 := UInt8.ofNat c.toNat

/-- Whether a byte may stand between values. -/
def isSpace (b : UInt8) : Bool :=
  b == 0x20 || b == 0x0a || b == 0x0d || b == 0x09

/-- The bytes without the blank ones in front. -/
def skipSpace (bytes : List UInt8) : List UInt8 :=
  bytes.dropWhile isSpace

/-- Whether a byte is a decimal digit. -/
def isDigit (b : UInt8) : Bool :=
  0x30 ≤ b && b ≤ 0x39

/-! ### Strings -/

/-- A part of a string: a byte that stands for itself, or a code unit written as an escape. -/
inductive Piece where
  | octet (byte : UInt8)
  | unit (code : Nat)
  deriving DecidableEq, Repr

/-- The value of a hexadecimal digit. -/
def hexValue (b : UInt8) : Option Nat :=
  if 0x30 ≤ b && b ≤ 0x39 then some (b.toNat - 0x30)
  else if 0x61 ≤ b && b ≤ 0x66 then some (b.toNat - 0x61 + 10)
  else if 0x41 ≤ b && b ≤ 0x46 then some (b.toNat - 0x41 + 10)
  else none

/-- The code unit of four hexadecimal digits. -/
def hexUnit (a b c d : UInt8) : Option Nat := do
  let a ← hexValue a
  let b ← hexValue b
  let c ← hexValue c
  let d ← hexValue d
  pure (((a * 16 + b) * 16 + c) * 16 + d)

/-- The byte that a short escape stands for. -/
def shortEscape (b : UInt8) : Option UInt8 :=
  if b == octet '"' then some 0x22
  else if b == octet '\\' then some 0x5c
  else if b == octet '/' then some 0x2f
  else if b == octet 'b' then some 0x08
  else if b == octet 'f' then some 0x0c
  else if b == octet 'n' then some 0x0a
  else if b == octet 'r' then some 0x0d
  else if b == octet 't' then some 0x09
  else none

/-- Puts a piece in front of the pieces of a string. -/
def Piece.before (piece : Piece) (scan : Scan (List Piece)) : Scan (List Piece) :=
  ⟨piece :: scan.found, scan.rest⟩

/-- The pieces of a string whose opening quote was read. -/
def stringPieces : List UInt8 → Scan (List Piece)
  | [] => ⟨[], .error .endsEarly⟩
  | b :: rest =>
    if b = octet '"' then ⟨[], .ok rest⟩
    else if b = octet '\\' then
      match rest with
      | [] => ⟨[], .error .endsEarly⟩
      | e :: rest =>
        if e = octet 'u' then
          match rest with
          | h₁ :: h₂ :: h₃ :: h₄ :: rest =>
            match hexUnit h₁ h₂ h₃ h₄ with
            | some code => (Piece.unit code).before (stringPieces rest)
            | none => ⟨[], .error .notJson⟩
          | _ => ⟨[], .error .endsEarly⟩
        else
          match shortEscape e with
          | some byte => (Piece.octet byte).before (stringPieces rest)
          | none => ⟨[], .error .notJson⟩
    -- A control character has to be escaped.
    else if b < 0x20 then ⟨[], .error .notJson⟩
    else (Piece.octet b).before (stringPieces rest)

/-- Whether a code unit is the first half of a surrogate pair. -/
def isLead (code : Nat) : Bool := 0xd800 ≤ code && code < 0xdc00

/-- Whether a code unit is the second half of a surrogate pair. -/
def isTrail (code : Nat) : Bool := 0xdc00 ≤ code && code < 0xe000

/-- The bytes that the pieces of a string stand for. A first half needs its second half right
behind it; when the string stops after a first half, `ending` tells why it stopped. -/
def pieceBytes (ending : Fault) : List Piece → Except Fault (List UInt8)
  | [] => .ok []
  | .octet b :: rest => do
    let bytes ← pieceBytes ending rest
    pure (b :: bytes)
  | .unit code :: rest =>
    if isLead code then
      match rest with
      | .unit trail :: rest =>
        if isTrail trail then do
          let bytes ← pieceBytes ending rest
          let char := Char.ofNat (0x10000 + (code - 0xd800) * 0x400 + (trail - 0xdc00))
          pure (String.utf8EncodeChar char ++ bytes)
        else .error .notJson
      | [] => .error ending
      -- Two escapes make one character, and anything between them leaves the first one alone.
      | _ => .error .notJson
    else if isTrail code then .error .notJson
    else do
      let bytes ← pieceBytes ending rest
      pure (String.utf8EncodeChar (Char.ofNat code) ++ bytes)

/-- The text that the pieces of a string stand for, unless it broke off or is no text. -/
def pieceText (scan : Scan (List Piece)) : Except Fault String :=
  let ending := match scan.rest with
    | .ok _ => Fault.notJson
    | .error fault => fault
  -- What the pieces are at fault for stands before the place where the string broke off.
  match pieceBytes ending scan.found, scan.rest with
  | .error fault, _ => .error fault
  | .ok _, .error fault => .error fault
  | .ok bytes, .ok _ =>
    match String.fromUTF8? ⟨bytes.toArray⟩ with
    | some text => .ok text
    | none => .error .notJson

/-- A string as a value. -/
def stringValue (bytes : List UInt8) : Scan Reading :=
  let scan := stringPieces bytes
  match pieceText scan with
  | .ok text => ⟨.str text, scan.rest⟩
  | .error fault => ⟨.broken fault, scan.rest⟩

/-! ### Numbers and literals -/

/-- Reads digits as long as the number they write stays within a limit: the number, and the
digits that are left. The digits of `value` were read before. -/
def digitsWithin (limit value : Nat) : List UInt8 → Nat × List UInt8
  | [] => (value, [])
  | b :: rest =>
    let next := value * 10 + (b.toNat - 0x30)
    if next ≤ limit then digitsWithin limit next rest else (value, b :: rest)

/-- The greatest number of an unsigned word. -/
def maxWord : Nat := 18446744073709551615

/-- The greatest exponent that is counted. -/
def maxExponent : Nat := 2147483647

/-- The greatest power of ten that a double holds, as its exponent. -/
def maxPower : Nat := 308

/-- Every number from here on is infinite as a double. -/
def doubleLimit : Nat := Nat.pow 2 1024 - Nat.pow 2 970

/-- The double next to a number, where it is not infinite: of its binary digits 53 stay. Halfway
between two doubles the even one counts. -/
def toDouble (n : Nat) : Nat :=
  if n < Nat.pow 2 53 then n
  else
    let unit := Nat.pow 2 (n.log2 - 52)
    let kept := n / unit
    let lost := n % unit
    if unit < 2 * lost ∨ (unit = 2 * lost ∧ kept % 2 = 1) then (kept + 1) * unit else kept * unit

/-- Whether the double of `significand · 10 ^ exponent` is infinite. It is found as a product of
two doubles, so both factors are rounded before they meet. -/
def isHuge (significand : Nat) (exponent : Int) : Bool :=
  if significand = 0 ∨ exponent < 0 then false
  else if (maxPower : Int) < exponent then true
  else doubleLimit ≤ toDouble significand * toDouble (Nat.pow 10 exponent.toNat)

/-- A number with a fraction or an exponent, or too large for a word. -/
def realValue (significand : Nat) (exponent : Int) : Reading :=
  if isHuge significand exponent then .broken .notJson else .real

/-- The digits of a number before its exponent, as far as they count. -/
structure Mantissa where
  /-- The number that the digits write that a word can hold. -/
  significand : Nat
  /-- The power of ten that the digits left out and the fraction stand for. -/
  exponent : Int

/-- The mantissa of the whole part of a number. -/
def Mantissa.ofWhole (whole : List UInt8) : Mantissa :=
  let (significand, left) := digitsWithin maxWord 0 whole
  ⟨significand, left.length⟩

/-- The mantissa with a fraction behind it. -/
def Mantissa.withFraction (mantissa : Mantissa) (fraction : List UInt8) : Mantissa :=
  let (significand, left) := digitsWithin maxWord mantissa.significand fraction
  ⟨significand, mantissa.exponent - (fraction.length - left.length : Nat)⟩

/-- The value of an integer as far as a word can hold it. -/
def integerValue (negative : Bool) (whole : List UInt8) : Reading :=
  let (magnitude, left) := digitsWithin maxWord 0 whole
  -- Digits that a word cannot hold make the number a double.
  if left ≠ [] then realValue magnitude left.length
  else if !negative then .int magnitude
  -- A zero with a sign is a double too, and so is what lies below the least signed word.
  else if magnitude ≠ 0 ∧ magnitude ≤ 9223372036854775808 then .int (-magnitude)
  else .real

/-- The value of a number with an exponent. -/
def scaledValue (mantissa : Mantissa) (negative : Bool) (digits : List UInt8) : Reading :=
  let (exponent, left) := digitsWithin maxExponent 0 digits
  if left ≠ [] then
    -- An exponent past all counting makes any number infinite, unless it makes it vanish.
    if mantissa.significand ≠ 0 ∧ !negative then .broken .notJson else .real
  else realValue mantissa.significand
    (mantissa.exponent + if negative then -(exponent : Int) else exponent)

/-- A number that stops here, at the end of the text or at a byte that cannot stand. A number that
the end cuts off ends the text too early for whoever reads it; whoever skips it finds no number. -/
def cutNumber : List UInt8 → Scan Reading
  | [] => ⟨.cutScalar, .error .notJson⟩
  | _ :: _ => ⟨.broken .notJson, .error .notJson⟩

/-- The exponent of a number, from behind its letter. -/
def exponentPart (mantissa : Mantissa) (bytes : List UInt8) : Scan Reading :=
  let (negative, bytes) := match bytes with
    | b :: rest => if b = octet '-' then (true, rest) else if b = octet '+' then (false, rest)
        else (false, b :: rest)
    | [] => (false, [])
  let digits := bytes.takeWhile isDigit
  let rest := bytes.dropWhile isDigit
  if digits.isEmpty then cutNumber rest else ⟨scaledValue mantissa negative digits, .ok rest⟩

/-- What follows the whole part and the fraction of a number. -/
def afterFraction (mantissa : Mantissa) (bytes : List UInt8) : Scan Reading :=
  match bytes with
  | b :: rest =>
    if b = octet 'e' ∨ b = octet 'E' then exponentPart mantissa rest
    else ⟨realValue mantissa.significand mantissa.exponent, .ok bytes⟩
  | [] => ⟨realValue mantissa.significand mantissa.exponent, .ok bytes⟩

/-- What follows the whole part of a number. -/
def afterWhole (negative : Bool) (whole bytes : List UInt8) : Scan Reading :=
  match bytes with
  | b :: rest =>
    if b = octet '.' then
      let fraction := rest.takeWhile isDigit
      let after := rest.dropWhile isDigit
      if fraction.isEmpty then cutNumber after
      else afterFraction ((Mantissa.ofWhole whole).withFraction fraction) after
    else if b = octet 'e' ∨ b = octet 'E' then exponentPart (Mantissa.ofWhole whole) rest
    else ⟨integerValue negative whole, .ok bytes⟩
  | [] => ⟨integerValue negative whole, .ok []⟩

/-- A number from behind its sign. A zero in front of other digits is no number. -/
def unsignedNumber (negative : Bool) (bytes : List UInt8) : Scan Reading :=
  let whole := bytes.takeWhile isDigit
  let rest := bytes.dropWhile isDigit
  match whole with
  | [] => cutNumber rest
  | first :: more =>
    if first = octet '0' ∧ more ≠ [] then ⟨.broken .notJson, .error .notJson⟩
    else afterWhole negative whole rest

/-- The rest of a literal, of which the first letter was read. -/
def literal (value : Reading) : List UInt8 → List UInt8 → Scan Reading
  | [], rest => ⟨value, .ok rest⟩
  | _ :: _, [] => ⟨.cutScalar, .error .endsEarly⟩
  | w :: word, b :: rest =>
    if b = w then literal value word rest else ⟨.broken .notJson, .error .notJson⟩

/-! ### Values -/

/-- The name of a member, and the bytes after its colon. A name that cannot be read is `none`. -/
structure Name where
  text : Except Fault String
  /-- The bytes after the name. -/
  after : Except Fault (List UInt8)

/-- Reads the name of a member. -/
def memberName (bytes : List UInt8) : Name :=
  match bytes with
  | [] => ⟨.error .endsEarly, .error .endsEarly⟩
  | b :: rest =>
    if b = octet '"' then
      let scan := stringPieces rest
      ⟨pieceText scan, scan.rest⟩
    else ⟨.error .notJson, .error .notJson⟩

/-- A member that is cut short by a fault in or behind its name. -/
def cutMember (name : Except Fault String) (fault : Fault) : Option String × Reading :=
  match name with
  | .ok text => (some text, .broken fault)
  | .error first => (none, .broken first)

/-- A member with its value. -/
def wholeMember (name : Except Fault String) (value : Reading) : Option String × Reading :=
  match name with
  | .ok text => (some text, value)
  | .error fault => (none, .broken fault)

mutual

/-- Reads one value. -/
def value : Nat → List UInt8 → Scan Reading
  | 0, _ => ⟨.broken .endsEarly, .error .endsEarly⟩
  | fuel + 1, bytes =>
    match skipSpace bytes with
    | [] => ⟨.broken .endsEarly, .error .endsEarly⟩
    | b :: rest =>
      if b = octet '"' then stringValue rest
      else if b = octet '[' then
        match skipSpace rest with
        | c :: after =>
          if c = octet ']' then ⟨.list [] none, .ok after⟩
          else
            let scan := items fuel rest
            ⟨.list scan.found scan.tear, scan.rest⟩
        | [] => ⟨.list [] (some .endsEarly), .error .endsEarly⟩
      else if b = octet '\x7b' then
        match skipSpace rest with
        | c :: after =>
          if c = octet '\x7d' then ⟨.object [] none, .ok after⟩
          else
            let scan := members fuel rest
            ⟨.object scan.found scan.tear, scan.rest⟩
        | [] => ⟨.object [] (some .endsEarly), .error .endsEarly⟩
      else if b = octet 'n' then literal .null [octet 'u', octet 'l', octet 'l'] rest
      else if b = octet 't' then literal (.bool true) [octet 'r', octet 'u', octet 'e'] rest
      else if b = octet 'f' then
        literal (.bool false) [octet 'a', octet 'l', octet 's', octet 'e'] rest
      else if b = octet '-' then unsignedNumber true rest
      else if isDigit b then unsignedNumber false (b :: rest)
      else ⟨.broken .notJson, .error .notJson⟩

/-- Reads the items of an array up to its closing bracket; at least one has to come. -/
def items : Nat → List UInt8 → Scan (List Reading)
  | 0, _ => ⟨[], .error .endsEarly⟩
  | fuel + 1, bytes =>
    let item := value fuel bytes
    match item.rest with
    | .error fault => ⟨[item.found], .error fault⟩
    | .ok rest =>
      match skipSpace rest with
      | [] => ⟨[item.found], .error .endsEarly⟩
      | b :: after =>
        if b = octet ']' then ⟨[item.found], .ok after⟩
        else if b = octet ',' then (items fuel after).cons item.found
        else ⟨[item.found], .error .notJson⟩

/-- Reads the members of an object up to its closing brace; at least one has to come. -/
def members : Nat → List UInt8 → Scan (List (Option String × Reading))
  | 0, _ => ⟨[], .error .endsEarly⟩
  | fuel + 1, bytes =>
    let name := memberName (skipSpace bytes)
    match name.after with
    | .error fault => ⟨[cutMember name.text fault], .error fault⟩
    | .ok rest =>
      match skipSpace rest with
      | [] => ⟨[cutMember name.text .endsEarly], .error .endsEarly⟩
      | b :: afterColon =>
        if b = octet ':' then
          let val := value fuel afterColon
          let member := wholeMember name.text val.found
          match val.rest with
          | .error fault => ⟨[member], .error fault⟩
          | .ok rest =>
            match skipSpace rest with
            | [] => ⟨[member], .error .endsEarly⟩
            | b :: after =>
              if b = octet '\x7d' then ⟨[member], .ok after⟩
              else if b = octet ',' then (members fuel after).cons member
              else ⟨[member], .error .notJson⟩
        else ⟨[cutMember name.text .notJson], .error .notJson⟩

end

/-- Reads a whole text: one value, and nothing but blanks after it. -/
def scan (bytes : List UInt8) : Scan Reading :=
  -- Each level and each item takes a byte, so the fuel is never used up.
  value (bytes.length + 1) bytes

/-- Reads a whole text as a value of a type. The reader of the type speaks first, since what it
objects to stands before the place where the text broke off. -/
def decode {α : Type} (read : Reading → Except Fault α) (bytes : List UInt8) : Except Fault α :=
  let text := scan bytes
  match read text.found, text.rest with
  | .error fault, _ => .error fault
  | .ok _, .error fault => .error fault
  | .ok result, .ok rest => if (skipSpace rest).isEmpty then .ok result else .error .notJson

end Json
end ReleasePipeline
