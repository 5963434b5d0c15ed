import ReleasePipeline.Text.Fold.Table
import ReleasePipeline.Text.Runs

/-!
# `ReleasePipeline.Text.Fold`: texts that differ in form only

Folding takes away what does not tell names apart: capitals become small letters, wide, narrow and
ornate forms become plain ones, characters that are not seen are dropped. Characters that cannot
stand in a name are refused. In ASCII only capitals change, so the table is about the characters
behind it.
-/

set_option autoImplicit false

namespace ReleasePipeline.Text

/-- What folding does to the characters of a run. -/
inductive FoldRule where
  | keep
  | drop
  | refuse
  /-- Each becomes the one that lies so far behind it. -/
  | later (distance : Nat)
  /-- Each becomes the one that lies so far before it. -/
  | earlier (distance : Nat)
  /-- By turns, one becomes the next one, and that stays as it is. -/
  | paired
  /-- Each becomes the one that is given for it. -/
  | listed (characters : List Char)
  /-- The only one becomes a text. -/
  | spelled (text : List Char)
  deriving DecidableEq, Repr

/-- The run that a word of the table writes. A word of no known form refuses its characters. -/
def foldRun (word : List Char) : Run FoldRule :=
  match countAndRest word with
  | (_, ':' :: characters) => ⟨characters.length, .listed characters⟩
  | (_, '=' :: text) => ⟨1, .spelled text⟩
  | (size, 'V' :: _) => ⟨size, .keep⟩
  | (size, 'I' :: _) => ⟨size, .drop⟩
  | (size, '~' :: _) => ⟨size, .paired⟩
  | (size, '+' :: distance) => ⟨size, .later (valueOfDigits distance)⟩
  | (size, '-' :: distance) => ⟨size, .earlier (valueOfDigits distance)⟩
  | (size, _) => ⟨size, .refuse⟩

/-- The first code point that the table tells about. -/
def firstFolded : Nat := 128

/-- The rules for all characters behind ASCII. -/
def foldTable : List (Run FoldRule) :=
  (wordsOf foldLines).map foldRun

/-- What a rule makes of a character at some place of its run. -/
def FoldRule.apply (c : Char) (place : Nat) : FoldRule → Option (List Char)
  | .keep => some [c]
  | .drop => some []
  | .refuse => none
  | .later distance => some [Char.ofNat (c.toNat + distance)]
  | .earlier distance => some [Char.ofNat (c.toNat - distance)]
  | .paired => some [if place % 2 = 0 then Char.ofNat (c.toNat + 1) else c]
  | .listed characters => characters[place]?.map ([·])
  | .spelled text => some text

/-- What folding makes of a character. There is nothing for characters that are refused. -/
def foldChar? (c : Char) : Option (List Char) :=
  if c.toNat < firstFolded then some [c.toLower]
  else
    match findRun foldTable (c.toNat - firstFolded) with
    | none => none
    | some (rule, place) => rule.apply c place

/-- Whether folding lets a character be. -/
def isFolded (c : Char) : Bool :=
  foldChar? c == some [c]

/-- What folding makes of a text. -/
def fold? (text : List Char) : Option (List Char) :=
  (text.mapM foldChar?).map List.flatten

end ReleasePipeline.Text
