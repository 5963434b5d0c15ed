import ReleasePipeline.Hosting.Punycode
import ReleasePipeline.Text.Compose
import ReleasePipeline.Text.Fold

/-!
# `ReleasePipeline.Hosting.DomainName`: names of hosts in any script

A name is folded and composed, so that names that look the same are the same. Each of its labels,
the texts between its dots, is then written in ASCII: as it is, or behind `xn--` in letters, digits
and hyphens. A label that comes with `xn--` has to be what this would have made of some label.

Labels that could be taken for others are refused: ones that begin with a mark, ones with joiners
where nothing is joined, and, if a part of the name is written from right to left, ones that would
not show in one piece.
-/

set_option autoImplicit false

namespace ReleasePipeline.DomainName

open Text

/-- The characters behind the blank that cannot stand in a name. -/
def forbidden : List Char :=
  ['%', '#', '/', ':', '<', '>', '?', '@', '[', '\\', ']', '^', '|', '\x7f']

/-- Whether a character cannot stand in a name. -/
def isForbidden (c : Char) : Bool :=
  c.toNat ≤ 0x20 || forbidden.contains c

/-! ### Joiners -/

/-- Asks for the characters beside it to be joined. -/
def joiner : Char := '\u200d'

/-- Asks for the characters beside it not to be joined. -/
def nonJoiner : Char := '\u200c'

/-- How the next character is joined, where transparent ones do not count. -/
def nextJoining : List Char → Joining
  | [] => .none
  | c :: rest =>
    match (traits c).joining with
    | .transparent => nextJoining rest
    | joining => joining

/-- Whether a character can stand between others, of which the ones before it are given backwards.
A joiner goes behind a virama, and a non-joiner also between characters that would be joined. -/
def fitsBetween (before : List Char) (c : Char) (after : List Char) : Bool :=
  if c ≠ joiner ∧ c ≠ nonJoiner then true
  else if before.head?.any fun last => (traits last).markClass = viramaClass then true
  else
    c == nonJoiner && (nextJoining before == .left || nextJoining before == .both) &&
      (nextJoining after == .right || nextJoining after == .both)

/-- Whether all joiners behind some characters, which are given backwards, are where they can be. -/
def joinersFit (before : List Char) : List Char → Bool
  | [] => true
  | c :: rest => fitsBetween before c rest && joinersFit (c :: before) rest

/-! ### Directions -/

/-- Whether a character shows that text is written from right to left. -/
def isFromRight (c : Char) : Bool :=
  !isAscii c && ((traits c).direction == .rightToLeft || (traits c).direction == .arabicNumber)

/-- The last direction, where marks do not count. -/
def lastDirection (directions : List Direction) : Option Direction :=
  (directions.reverse.dropWhile (· == .mark)).head?

/-- Whether a label shows in one piece beside text in the other direction. -/
def showsInOnePiece (directions : List Direction) : Bool :=
  match directions with
  | [] => true
  | .rightToLeft :: _ =>
    directions.all ([.rightToLeft, .arabicNumber, .number, .neutral, .mark].contains ·) &&
      (lastDirection directions).any ([.rightToLeft, .arabicNumber, .number].contains ·) &&
      !(directions.contains .number && directions.contains .arabicNumber)
  | .leftToRight :: _ =>
    directions.all ([.leftToRight, .number, .neutral, .mark].contains ·) &&
      (lastDirection directions).any ([.leftToRight, .number].contains ·)
  | _ => false

/-! ### Labels -/

/-- A label of a name. -/
structure Label where
  /-- What it shows. -/
  letters : List Char
  /-- What it is in ASCII. -/
  written : List Char
  deriving DecidableEq, Repr

/-- What stands in front of labels that are not written as they are. -/
def otherScripts : List Char := ['x', 'n', '-', '-']

/-- The most characters of a label that can be written in ASCII. -/
def maxLetters : Nat := 1000

/-- The most characters behind `xn--` that can be read. -/
def maxWritten : Nat := 2000

/-- Whether the letters of a label are what they seem to be. -/
def isWellFormed (letters : List Char) : Bool :=
  !(letters.head?.any fun c => (traits c).isMark) && joinersFit [] letters

/-- The label that is written behind `xn--`. -/
def decodeLabel? (written : List Char) : Option (List Char) := do
  if maxWritten < written.length then none
  let letters ← Punycode.decode? written
  if !letters.all isAscii && letters.all isFolded && compose letters == letters &&
      !otherScripts.isPrefixOf letters && isWellFormed letters then
    some letters
  else none

/-- Reads a label that is folded and composed. -/
def readLabel? (text : List Char) : Option Label :=
  if otherScripts.isPrefixOf text then
    (decodeLabel? (text.drop otherScripts.length)).map fun letters => ⟨letters, text⟩
  else if text.all isAscii then some ⟨text, text⟩
  else if isWellFormed text ∧ text.length ≤ maxLetters then
    some ⟨text, otherScripts ++ Punycode.encode text⟩
  else none

/-- A name in ASCII. -/
def toAscii? (name : List Char) : Option (List Char) := do
  let folded ← fold? name
  -- Folding may bring forth what cannot stand in a name, so this is checked behind it.
  if folded.any isForbidden then none
  let labels ← (pieces (· == '.') (compose folded)).mapM readLabel?
  -- One label from right to left puts all labels under the rule.
  if labels.any fun label => label.letters.any isFromRight then
    if !(labels.all fun label => showsInOnePiece (label.letters.map fun c => (traits c).direction))
    then none
  some ((labels.map (·.written)).intersperse ['.'] |>.flatten)

end ReleasePipeline.DomainName
