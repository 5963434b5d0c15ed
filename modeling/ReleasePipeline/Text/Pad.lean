/-!
# `ReleasePipeline.Text.Pad`: text in a column of fixed width

Widths count characters. A text that is already as wide as its column is left alone. There is a
limit to the width of columns, which only whoever takes a width from elsewhere has to mind.
-/

set_option autoImplicit false

namespace ReleasePipeline.Text

/-- The greatest width of a column. -/
def maxWidth : Nat := 65535

/-- A width, unless no column is that wide. -/
def columnWidth? (width : Nat) : Option Nat :=
  if width ≤ maxWidth then some width else none

/-- As many blanks as asked for. -/
def blanks (count : Nat) : String :=
  String.ofList (List.replicate count ' ')

/-- The text at the left edge of a column. -/
def alignLeft (width : Nat) (text : String) : String :=
  text ++ blanks (width - text.length)

/-- The text at the right edge of a column. -/
def alignRight (width : Nat) (text : String) : String :=
  blanks (width - text.length) ++ text

/-- The text in the middle of a column; an odd blank goes to its right. -/
def center (width : Nat) (text : String) : String :=
  let spare := width - text.length
  blanks (spare / 2) ++ text ++ blanks (spare - spare / 2)

/-- At most the first `width` characters of the text. -/
def cut (width : Nat) (text : String) : String :=
  String.ofList (text.toList.take width)

end ReleasePipeline.Text
