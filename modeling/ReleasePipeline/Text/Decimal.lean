/-!
# `ReleasePipeline.Text.Decimal`: decimal numbers as text

Counts given by hand (a timeout, a number of jobs) are read by `readCount`: an optional plus
sign, then at least one digit, and a value that a 64-bit word can hold. Reading goes from left
to right and stops at the first character that cannot stand, so a number that has grown too
large is reported before a bad character further on.
-/

set_option autoImplicit false

namespace ReleasePipeline.Text

/-- Why a text is not a count. -/
inductive CountFault where
  /-- There is nothing to read. -/
  | empty
  /-- Something other than a digit stands where a digit must. -/
  | invalidDigit
  /-- The value does not fit into 64 bits. -/
  | tooLarge
  deriving DecidableEq, Repr

/-- The wording of a fault. -/
def CountFault.message : CountFault → String
  | .empty => "cannot parse integer from empty string"
  | .invalidDigit => "invalid digit found in string"
  | .tooLarge => "number too large to fit in target type"

/-- The digits of a natural number. -/
def digits (n : Nat) : List Char :=
  Nat.toDigits 10 n

/-- The digits of a natural number, with zeros in front up to a width. -/
def paddedDigits (width n : Nat) : List Char :=
  List.replicate (width - (digits n).length) '0' ++ digits n

/-- The value of a decimal digit. -/
def digitValue (c : Char) : Nat :=
  c.toNat - '0'.toNat

/-- The value of a run of digits, most significant first. -/
def valueOfDigits (text : List Char) : Nat :=
  text.foldl (fun value c => value * 10 + digitValue c) 0

/-- The largest 64-bit word. -/
def maxCount : Nat := 18446744073709551615

/-- Reads the digits that follow a value read so far. -/
def readDigits (value : Nat) : List Char → Except CountFault Nat
  | [] => .ok value
  | c :: rest =>
    if c.isDigit then
      let next := value * 10 + digitValue c
      if next ≤ maxCount then readDigits next rest else .error .tooLarge
    else .error .invalidDigit

/-- Reads a count: an optional plus sign, then one digit or more. -/
def readCount : List Char → Except CountFault Nat
  | [] => .error .empty
  | '+' :: [] => .error .invalidDigit
  | '+' :: rest => readDigits 0 rest
  | text => readDigits 0 text

end ReleasePipeline.Text
