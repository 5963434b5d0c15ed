/-!
# `ReleasePipeline.Text.Pieces`: texts cut at separators

A text has one piece more than separators, so pieces may be empty, and joining them with a
separator gives the text back.
-/

set_option autoImplicit false

namespace ReleasePipeline.Text

/-- The pieces between the characters that satisfy a test. -/
def pieces (isSeparator : Char → Bool) : List Char → List (List Char)
  | [] => [[]]
  | c :: rest =>
    if isSeparator c then [] :: pieces isSeparator rest
    else
      match pieces isSeparator rest with
      | [] => [[c]]
      | piece :: more => (c :: piece) :: more

end ReleasePipeline.Text
