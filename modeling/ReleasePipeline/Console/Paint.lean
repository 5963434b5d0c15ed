/-!
# `ReleasePipeline.Console.Paint`: coloured text

A style is a code that a terminal understands. Painted text stands between the code of its style
and a reset. A reset inside the text would end the style, so it is followed by the code again.
Without colour, painting changes nothing.
-/

set_option autoImplicit false

namespace ReleasePipeline.Console

/-- How a text is shown. -/
inductive Style where
  | bold
  | dimmed
  | red
  | green
  | yellow
  | cyan
  deriving DecidableEq, Repr

/-- The number of a style. -/
def Style.code : Style → String
  | .bold => "1"
  | .dimmed => "2"
  | .red => "31"
  | .green => "32"
  | .yellow => "33"
  | .cyan => "36"

/-- The sequence that begins a style. -/
def Style.opening (style : Style) : String :=
  "\x1b[" ++ style.code ++ "m"

/-- The sequence that ends every style. -/
def reset : String := "\x1b[0m"

/-- Puts a text behind every occurrence of a sequence. -/
def followEach (sequence text : List Char) : List Char → List Char
  | [] => []
  | c :: rest =>
    match sequence with
    | [] => c :: rest
    | first :: more =>
      if c = first ∧ more.isPrefixOf rest = true then
        c :: (more ++ text ++ followEach sequence text (rest.drop more.length))
      else c :: followEach sequence text rest
termination_by rest => rest.length
decreasing_by all_goals (simp only [List.length_drop, List.length_cons]; omega)

/-- Shows a text in a style, if there is colour. -/
def paint (color : Bool) (style : Style) (text : String) : String :=
  if color then
    style.opening ++
      String.ofList (followEach reset.toList style.opening.toList text.toList) ++ reset
  else text

end ReleasePipeline.Console
