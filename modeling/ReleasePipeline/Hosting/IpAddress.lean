import ReleasePipeline.Text.Decimal
import ReleasePipeline.Text.Pieces
import ReleasePipeline.Text.Radix

/-!
# `ReleasePipeline.Hosting.IpAddress`: hosts that are numbers

A host of the older kind is a number of 32 bits. It may be given in up to four parts between dots,
each of them decimal, octal behind a `0` or hexadecimal behind `0x`; the last part fills the bytes
that the others leave. It is written as four decimal bytes.

A host of the newer kind is eight groups of 16 bits. It is given between brackets as hexadecimal
groups with colons between them, where `::` stands for as many zero groups as are missing and four
decimal bytes may stand for the last two groups. It is written in lower case, with `::` in place of
the longest stretch of zero groups.
-/

set_option autoImplicit false

namespace ReleasePipeline.IpAddress

open Text (numberIn?)

/-! ### Four bytes -/

/-- The number that a part of an address writes. -/
def part? : List Char → Option Nat
  | [] => none
  | ['0'] => some 0
  | '0' :: 'x' :: rest => numberIn? 16 rest
  | '0' :: 'X' :: rest => numberIn? 16 rest
  | '0' :: rest => numberIn? 8 rest
  | text => numberIn? 10 text

/-- The parts of a host, where a dot at its end does not count. -/
def parts (host : List Char) : List (List Char) :=
  let parts := Text.pieces (· == '.') host
  if 1 < parts.length ∧ parts.getLast? = some [] then parts.dropLast else parts

/-- Whether a host has to be an address of four bytes: its last part writes a number, or at least it
has nothing but digits. -/
def endsInNumber (host : List Char) : Bool :=
  match (parts host).getLast? with
  | none => false
  | some last => (!last.isEmpty && last.all Char.isDigit) || (part? last).isSome

/-- The number of an address whose parts write numbers: each is a byte, and the last one fills what
is left. -/
def ofParts? : Nat → List Nat → Option Nat
  | _, [] => none
  | free, [last] => if last < Nat.pow 256 free then some last else none
  | free, byte :: rest => do
    let low ← ofParts? (free - 1) rest
    if byte < 256 then some (byte * Nat.pow 256 (free - 1) + low) else none

/-- The number of an address of four bytes. -/
def fourBytes? (host : List Char) : Option Nat := do
  let parts := parts host
  if 4 < parts.length then none
  else
    let numbers ← parts.mapM part?
    ofParts? 4 numbers

/-- An address of four bytes as text. -/
def fourBytesText (address : Nat) : List Char :=
  let byte (place : Nat) : List Char := Text.digits (address / Nat.pow 256 place % 256)
  byte 3 ++ '.' :: byte 2 ++ '.' :: byte 1 ++ '.' :: byte 0

/-! ### Eight groups -/

/-- The number that one to four hexadecimal digits write. -/
def group? (text : List Char) : Option Nat :=
  if text.isEmpty ∨ 4 < text.length then none else numberIn? 16 text

/-- The byte that decimal digits write, without a zero in front of others. -/
def byte? (text : List Char) : Option Nat :=
  match text with
  | [] => none
  | '0' :: _ :: _ => none
  | _ => do
    let value ← numberIn? 10 text
    if value < 256 then some value else none

/-- The two groups of four decimal bytes. -/
def tailGroups? (text : List Char) : Option (List Nat) :=
  match (Text.pieces (· == '.') text).mapM byte? with
  | some [a, b, c, d] => some [a * 256 + b, c * 256 + d]
  | _ => none

/-- The groups that fields between colons write. Only the last field may be four bytes. -/
def fieldGroups? (mayEndInBytes : Bool) : List (List Char) → Option (List Nat)
  | [] => some []
  | [field] =>
    match group? field with
    | some group => some [group]
    | none => if mayEndInBytes then tailGroups? field else none
  | field :: rest => do
    let group ← group? field
    let groups ← fieldGroups? mayEndInBytes rest
    some (group :: groups)

/-- The groups of a text without `::`. -/
def groups? (mayEndInBytes : Bool) (text : List Char) : Option (List Nat) :=
  if text.isEmpty then some [] else fieldGroups? mayEndInBytes (Text.pieces (· == ':') text)

/-- Cuts a text at the first `::`. -/
def cutAtGap : List Char → List Char × Option (List Char)
  | [] => ([], none)
  | ':' :: ':' :: rest => ([], some rest)
  | c :: rest =>
    let (before, after) := cutAtGap rest
    (c :: before, after)

/-- The groups of an address of eight groups. -/
def eightGroups? (text : List Char) : Option (List Nat) :=
  match cutAtGap text with
  | (_, none) => do
    let groups ← groups? true text
    if groups.length = 8 then some groups else none
  | (before, some after) => do
    let front ← groups? false before
    let back ← groups? true after
    -- The gap stands for at least one group.
    let missing := 8 - (front.length + back.length)
    if missing = 0 then none else some (front ++ List.replicate missing 0 ++ back)

/-- How many zero groups stand in front. -/
def zerosInFront (groups : List Nat) : Nat :=
  (groups.takeWhile (· == 0)).length

/-- The place and the size of the longest stretch of zero groups, the first one of several. The
groups stand from `place` on. -/
def longestZeros (place : Nat) : List Nat → Nat × Nat
  | [] => (place, 0)
  | group :: rest =>
    let here := zerosInFront (group :: rest)
    let later := longestZeros (place + 1) rest
    if later.2 ≤ here then (place, here) else later

/-- Groups as text, with colons between them. -/
def groupsText (groups : List Nat) : List Char :=
  (groups.map (Nat.toDigits 16)).intersperse [':'] |>.flatten

/-- An address of eight groups as text. -/
def eightGroupsText (groups : List Nat) : List Char :=
  let (place, size) := longestZeros 0 groups
  if size < 2 then groupsText groups
  else groupsText (groups.take place) ++ ':' :: ':' :: groupsText (groups.drop (place + size))

end ReleasePipeline.IpAddress
