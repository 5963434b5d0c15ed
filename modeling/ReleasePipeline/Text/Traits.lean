import ReleasePipeline.Text.Runs
import ReleasePipeline.Text.Traits.Table

/-!
# `ReleasePipeline.Text.Traits`: how characters behave beside others

Names of several scripts can be put together so that they do not show in the order they are spelled
in. What a character does to the ones beside it decides that: the direction it is written in,
whether it stands on its own, which of its sides it is joined at, and, for a mark, where it sits.
-/

set_option autoImplicit false

namespace ReleasePipeline.Text

/-- The direction that a character is written in. -/
inductive Direction where
  | leftToRight
  | rightToLeft
  /-- Digits of Europe. -/
  | number
  /-- Digits of Arabic scripts. -/
  | arabicNumber
  /-- A mark, which goes with the character it sits on. -/
  | mark
  | neutral
  /-- Separators and controls, which no name may hold beside right-to-left text. -/
  | other
  deriving DecidableEq, Repr

/-- The sides that a character is joined at. -/
inductive Joining where
  | none
  | left
  | right
  | both
  /-- It stands in no way of others that are joined. -/
  | transparent
  deriving DecidableEq, Repr

/-- How a character behaves beside others. -/
structure Traits where
  direction : Direction
  joining : Joining
  /-- Whether it does not stand on its own. -/
  isMark : Bool
  /-- Where a mark sits. Marks of different classes do not touch, so their order does not show. -/
  markClass : Nat
  deriving DecidableEq, Repr

/-- The class of the marks that take the vowel from the letter before. -/
def viramaClass : Nat := 9

/-- The traits that a letter of the table stands for, with the class that follows it. -/
def Traits.ofLetter (markClass : Nat) : Char → Traits
  | 'L' => ⟨.leftToRight, .none, false, markClass⟩
  | 'd' => ⟨.leftToRight, .both, false, markClass⟩
  | 'f' => ⟨.leftToRight, .left, false, markClass⟩
  | 'S' => ⟨.leftToRight, .none, true, markClass⟩
  | 'T' => ⟨.leftToRight, .transparent, true, markClass⟩
  | 'R' => ⟨.rightToLeft, .none, false, markClass⟩
  | 'D' => ⟨.rightToLeft, .both, false, markClass⟩
  | 'J' => ⟨.rightToLeft, .right, false, markClass⟩
  | 'F' => ⟨.rightToLeft, .left, false, markClass⟩
  | 't' => ⟨.rightToLeft, .transparent, false, markClass⟩
  | 'M' => ⟨.mark, .transparent, true, markClass⟩
  | 'N' => ⟨.mark, .none, true, markClass⟩
  | 'E' => ⟨.number, .none, false, markClass⟩
  | 'A' => ⟨.arabicNumber, .none, false, markClass⟩
  | 'O' => ⟨.neutral, .none, false, markClass⟩
  | 'o' => ⟨.neutral, .both, false, markClass⟩
  | _ => ⟨.other, .none, false, markClass⟩

/-- The run that a word of the table writes. -/
def traitRun (word : List Char) : Run Traits :=
  match countAndRest word with
  | (size, letter :: markClass) => ⟨size, Traits.ofLetter (valueOfDigits markClass) letter⟩
  | (size, []) => ⟨size, Traits.ofLetter 0 'Z'⟩

/-- The traits of all characters. -/
def traitTable : List (Run Traits) :=
  (wordsOf traitLines).map traitRun

/-- How a character behaves beside others. -/
def traits (c : Char) : Traits :=
  match findRun traitTable c.toNat with
  | some (traits, _) => traits
  | none => Traits.ofLetter 0 'Z'

end ReleasePipeline.Text
