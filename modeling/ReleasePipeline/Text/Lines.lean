/-!
# `ReleasePipeline.Text.Lines`: the lines of a text

A line ends at a line feed, and one carriage return right before that feed belongs to the end of
the line. A text that ends in a line feed has no empty line after it, so the empty text has no
lines at all. A carriage return that no feed follows is an ordinary character.
-/

set_option autoImplicit false

namespace ReleasePipeline.Text

/-- Puts a character in front of the first line. -/
def consLine (c : Char) : List (List Char) → List (List Char)
  | [] => [[c]]
  | line :: rest => (c :: line) :: rest

/-- The lines of a text, without their ends. -/
def lines : List Char → List (List Char)
  | [] => []
  | '\n' :: rest => [] :: lines rest
  | '\r' :: '\n' :: rest => [] :: lines rest
  | c :: rest => consLine c (lines rest)

/-- The lines of a string. -/
def linesOf (text : String) : List String :=
  (lines text.toList).map String.ofList

end ReleasePipeline.Text
