/-!
# `ReleasePipeline.Text.Blank`: blank characters and trimming

A character is blank when it has the Unicode property `White_Space`. Configuration values,
tags and captured output are all judged by this one property. `trim` cuts blanks from both
ends, `trimEnd` from the end only, and neither touches the inside of a text.
-/

set_option autoImplicit false

namespace ReleasePipeline.Text

/-- The characters with the Unicode property `White_Space`, as ranges of code points. -/
def blankRanges : List (Nat × Nat) :=
  [(0x09, 0x0d), (0x20, 0x20), (0x85, 0x85), (0xa0, 0xa0), (0x1680, 0x1680), (0x2000, 0x200a),
   (0x2028, 0x2029), (0x202f, 0x202f), (0x205f, 0x205f), (0x3000, 0x3000)]

/-- Whether a character is blank. -/
def isBlank (c : Char) : Bool :=
  blankRanges.any fun (low, high) => low ≤ c.toNat && c.toNat ≤ high

/-- The text without the blanks at its end. -/
def trimEnd (text : List Char) : List Char :=
  (text.reverse.dropWhile isBlank).reverse

/-- The text without the blanks at either end. -/
def trim (text : List Char) : List Char :=
  trimEnd (text.dropWhile isBlank)

/-- Whether a text holds nothing but blanks; the empty text does. -/
def isBlankText (text : String) : Bool :=
  text.toList.all isBlank

end ReleasePipeline.Text
