import ReleasePipeline.Text.Compose.Table
import ReleasePipeline.Text.Traits

/-!
# `ReleasePipeline.Text.Compose`: one spelling for each text

A letter with a mark can be one character or two, and marks that do not touch can come in any order.
`compose` takes characters apart, puts the marks behind each letter in the order of their classes,
and puts together what can be put together. Texts that look the same are then the same. It is for
folded texts, which hold no other characters that can be taken apart.

The syllables of Korean are numbered by their parts and need no table.
-/

set_option autoImplicit false

namespace ReleasePipeline.Text

/-- A character that stands for two others. -/
structure Composite where
  first : Char
  second : Char
  whole : Char
  deriving DecidableEq, Repr

/-- The composites with one second character. -/
def compositesOf (second : Char) : List Char → List Composite
  | first :: whole :: rest => ⟨first, second, whole⟩ :: compositesOf second rest
  | _ => []

/-- All composites that are not put together by rule. -/
def compositeTable : List Composite :=
  (wordsOf compositeLines).flatMap fun word =>
    match word with
    | second :: pairs => compositesOf second pairs
    | [] => []

/-! ### Syllables -/

/-- The first leading consonant. -/
def firstLead : Nat := 0x1100

/-- How many leading consonants there are. -/
def leads : Nat := 19

/-- The first vowel. -/
def firstVowel : Nat := 0x1161

/-- How many vowels there are. -/
def vowels : Nat := 21

/-- The code point before the first trailing consonant. It stands for none. -/
def noTrail : Nat := 0x11a7

/-- How many trailing consonants there are, with none among them. -/
def trails : Nat := 28

/-- The first syllable. -/
def firstSyllable : Nat := 0xac00

/-- The syllable of a leading consonant and a vowel, or of a syllable without a trailing consonant
and such a consonant. -/
def syllable? (first second : Char) : Option Char :=
  let lead := first.toNat - firstLead
  let vowel := second.toNat - firstVowel
  let place := first.toNat - firstSyllable
  let trail := second.toNat - noTrail
  if firstLead ≤ first.toNat ∧ lead < leads ∧ firstVowel ≤ second.toNat ∧ vowel < vowels then
    some (Char.ofNat (firstSyllable + (lead * vowels + vowel) * trails))
  else if firstSyllable ≤ first.toNat ∧ place < leads * vowels * trails ∧ place % trails = 0 ∧
      noTrail < second.toNat ∧ trail < trails then
    some (Char.ofNat (first.toNat + trail))
  else none

/-! ### Composition -/

/-- The character that stands for two others. -/
def composite? (first second : Char) : Option Char :=
  match syllable? first second with
  | some syllable => some syllable
  | none =>
    (compositeTable.find? fun pair => pair.second == second && pair.first == first).map (·.whole)

/-- How often the first part of a character can be taken apart again, at most. -/
def compositeDepth : Nat := 4

/-- Takes a character apart, and its parts as often as they can be taken apart. -/
def decompose : Nat → Char → List Char
  | 0, c => [c]
  | depth + 1, c =>
    match compositeTable.find? (·.whole == c) with
    | some pair => decompose depth pair.first ++ decompose depth pair.second
    | none => [c]

/-- Puts a character in front of others. A mark goes behind those of lower classes. -/
def placeMark (c : Char) : List Char → List Char
  | [] => [c]
  | next :: rest =>
    if 0 < (traits next).markClass ∧ (traits next).markClass < (traits c).markClass then
      next :: placeMark c rest
    else c :: next :: rest

/-- Puts the marks behind each letter in the order of their classes. -/
def orderMarks (text : List Char) : List Char :=
  text.foldr placeMark []

/-- Puts a letter and what follows it together. The marks that stay apart are already behind the
letter, and the last of them has the class `last`. A character that is not touched by them can still
go with the letter. -/
def composeBehind (letter : Char) (marks : List Char) (last : Nat) : List Char → List Char
  | [] => letter :: marks
  | c :: rest =>
    let markClass := (traits c).markClass
    -- A mark of the same class behind the letter keeps this character from touching it.
    let whole := if marks.isEmpty ∨ last < markClass then composite? letter c else none
    match whole with
    | some whole => composeBehind whole marks last rest
    | none =>
      if markClass = 0 then letter :: marks ++ composeBehind c [] 0 rest
      else composeBehind letter (marks ++ [c]) markClass rest

/-- Puts letters and their marks together. Marks without a letter stay apart. -/
def composeAll : List Char → List Char
  | [] => []
  | c :: rest =>
    if (traits c).markClass = 0 then composeBehind c [] 0 rest else c :: composeAll rest

/-- Whether a character is one of ASCII. -/
def isAscii (c : Char) : Bool :=
  c.toNat < 128

/-- The one spelling of a text. In ASCII nothing can be put together. -/
def compose (text : List Char) : List Char :=
  if text.all isAscii then text
  else composeAll (orderMarks (text.flatMap (decompose compositeDepth)))

end ReleasePipeline.Text
