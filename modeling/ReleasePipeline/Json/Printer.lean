import ReleasePipeline.Json.Basic
import ReleasePipeline.Text.Decimal

/-!
# `ReleasePipeline.Json.Printer`: the text of a value

A value is written in one of two layouts. The compact one has no blank outside strings. The
indented one gives every item and every member a line of its own, two blanks deeper than what
holds it, and one blank after a colon; an empty container stays on one line. Strings are written
with the short escapes where JSON has one, four hexadecimal digits for the other control
characters, and every further character as itself.
-/

set_option autoImplicit false

namespace ReleasePipeline

/-- How a value is laid out. -/
inductive Layout where
  | compact
  | indented
  deriving DecidableEq, Repr

/-- What separates the items of a container that is `depth` levels deep. -/
def Layout.lineBreak (layout : Layout) (depth : Nat) : List Char :=
  match layout with
  | .compact => []
  | .indented => '\n' :: List.replicate (2 * depth) ' '

/-- What stands between the name of a member and its value. -/
def Layout.colon : Layout → List Char
  | .compact => [':']
  | .indented => [':', ' ']

namespace Json

/-- A hexadecimal digit in lower case. -/
def hexDigit (n : Nat) : Char :=
  if n < 10 then Char.ofNat ('0'.toNat + n) else Char.ofNat ('a'.toNat + (n - 10))

/-- A character as it stands in a string. -/
def escape (c : Char) : List Char :=
  if c = '"' then ['\\', '"']
  else if c = '\\' then ['\\', '\\']
  else if c = '\x08' then ['\\', 'b']
  else if c = '\x0c' then ['\\', 'f']
  else if c = '\n' then ['\\', 'n']
  else if c = '\r' then ['\\', 'r']
  else if c = '\t' then ['\\', 't']
  else if c.toNat < 0x20 then
    ['\\', 'u', '0', '0', hexDigit (c.toNat / 16), hexDigit (c.toNat % 16)]
  else [c]

/-- A text between quotes. -/
def quoted (text : String) : List Char :=
  '"' :: (text.toList.flatMap escape ++ ['"'])

/-- The digits of an integer, with its sign if it is negative. -/
def integer (value : Int) : List Char :=
  if value < 0 then '-' :: Text.digits value.natAbs else Text.digits value.natAbs

mutual

/-- The text of a value that stands `depth` containers deep. -/
def write (layout : Layout) (depth : Nat) : Json → List Char
  | .null => ['n', 'u', 'l', 'l']
  | .bool true => ['t', 'r', 'u', 'e']
  | .bool false => ['f', 'a', 'l', 's', 'e']
  | .int value => integer value
  | .str text => quoted text
  | .arr [] => ['[', ']']
  | .arr (item :: rest) =>
    '[' :: (layout.lineBreak (depth + 1) ++ (write layout (depth + 1) item ++
      (writeItems layout (depth + 1) rest ++ (layout.lineBreak depth ++ [']']))))
  | .obj [] => ['\x7b', '\x7d']
  | .obj ((name, value) :: rest) =>
    '\x7b' :: (layout.lineBreak (depth + 1) ++ (quoted name ++ (layout.colon ++
      (write layout (depth + 1) value ++
        (writeMembers layout (depth + 1) rest ++ (layout.lineBreak depth ++ ['\x7d']))))))

/-- The items after the first one, each behind its comma. -/
def writeItems (layout : Layout) (depth : Nat) : List Json → List Char
  | [] => []
  | item :: rest =>
    ',' :: (layout.lineBreak depth ++ (write layout depth item ++ writeItems layout depth rest))

/-- The members after the first one, each behind its comma. -/
def writeMembers (layout : Layout) (depth : Nat) : List (String × Json) → List Char
  | [] => []
  | (name, value) :: rest =>
    ',' :: (layout.lineBreak depth ++ (quoted name ++ (layout.colon ++
      (write layout depth value ++ writeMembers layout depth rest))))

end

/-- The text of a value. -/
def render (layout : Layout) (value : Json) : String :=
  String.ofList (value.write layout 0)

end Json
end ReleasePipeline
