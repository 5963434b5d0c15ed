import ReleasePipeline.Text.Decimal
import ReleasePipeline.Text.Pieces

/-!
# `ReleasePipeline.Text.Runs`: what holds for stretches of characters

A table about all characters is a list of runs: a number of characters, one after the other, and a
value that tells about them. The first run starts at the first character, and each run starts where
the one before it ends. A table is written as words with blanks between them, one word for each run.
-/

set_option autoImplicit false

namespace ReleasePipeline.Text

/-- Characters one after the other, and what holds for them. -/
structure Run (α : Type) where
  size : Nat
  value : α

/-- The words of some lines. -/
def wordsOf (lines : List String) : List (List Char) :=
  lines.flatMap fun line => pieces (· == ' ') line.toList

/-- The number that a word starts with, and what follows it. -/
def countAndRest (word : List Char) : Nat × List Char :=
  (valueOfDigits (word.takeWhile Char.isDigit), word.dropWhile Char.isDigit)

/-- The run that a code point is in, and its place there. -/
def findRun {α : Type} : List (Run α) → Nat → Option (α × Nat)
  | [], _ => none
  | run :: rest, code => if code < run.size then some (run.value, code) else
    findRun rest (code - run.size)

end ReleasePipeline.Text
