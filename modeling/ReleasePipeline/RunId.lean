import ReleasePipeline.Json.Record

/-!
# `ReleasePipeline.RunId`: identifiers of variant runs

A run identifier is a number of thirty-two hexadecimal digits. It is written in lower case, in
groups of 8, 4, 4, 4 and 12 digits with hyphens between them. It is read from that form, from the
bare digits, from the grouped form inside braces and from the grouped form behind `urn:uuid:`. All
letters may be of either case.
-/

set_option autoImplicit false

namespace ReleasePipeline

/-- An identifier of a run. -/
structure RunId where
  digits : List (Fin 16)
  length_digits : digits.length = 32
  deriving DecidableEq

namespace RunId

/-- The identifier that is a number; of a number that is too large the last digits count. -/
def ofNat (n : Nat) : RunId :=
  ⟨(List.range 32).map fun i => Fin.ofNat 16 (n / Nat.pow 16 (31 - i)), by simp⟩

/-- The identifier of a random number. One of its digits tells that it is random, and of another one
only two bits are free. -/
def ofRandom (n : Nat) : RunId :=
  let digits := (ofNat n).digits
  ⟨(digits.set 12 4).modify 16 fun digit => Fin.ofNat 16 (8 + digit.val % 4), by
    simp [digits, (ofNat n).length_digits]⟩

/-- The identifier of a list of digits, if there are thirty-two of them. -/
def ofDigits? (digits : List (Fin 16)) : Option RunId :=
  if h : digits.length = 32 then some ⟨digits, h⟩ else none

/-- The character of a digit. -/
def digitChar (digit : Fin 16) : Char :=
  Nat.digitChar digit.val

/-- The digit of a character of either case. -/
def digitOf? (c : Char) : Option (Fin 16) :=
  let n := c.toNat
  if 48 ≤ n ∧ n ≤ 57 then some (Fin.ofNat 16 (n - 48))
  else if 97 ≤ n ∧ n ≤ 102 then some (Fin.ofNat 16 (n - 87))
  else if 65 ≤ n ∧ n ≤ 70 then some (Fin.ofNat 16 (n - 55))
  else none

/-- The sizes of the groups. -/
def groups : List Nat := [8, 4, 4, 4, 12]

/-- Cuts a text into pieces of the given sizes and joins them with hyphens. -/
def hyphenate : List Nat → List Char → List Char
  | [], text => text
  | [_], text => text
  | size :: sizes, text => text.take size ++ '-' :: hyphenate sizes (text.drop size)

/-- The text of an identifier. -/
def text (id : RunId) : List Char :=
  hyphenate groups (id.digits.map digitChar)

/-- Takes the hyphens out of a text of groups of the given sizes. -/
def unhyphenate : List Nat → List Char → Option (List Char)
  | [], text => some text
  | [_], text => some text
  | size :: sizes, text =>
    match text.drop size with
    | '-' :: rest => (unhyphenate sizes rest).map (text.take size ++ ·)
    | _ => none

/-- The identifier of thirty-two digits. -/
def ofBare? (text : List Char) : Option RunId := do
  let digits ← text.mapM digitOf?
  ofDigits? digits

/-- The identifier of a text in groups. -/
def ofGrouped? (text : List Char) : Option RunId := do
  let digits ← unhyphenate groups text
  ofBare? digits

/-- What stands in front of an identifier that is written as a resource name. -/
def urn : List Char := ['u', 'r', 'n', ':', 'u', 'u', 'i', 'd', ':']

/-- The identifier of a text in any of its forms. The length of the text tells the form. -/
def ofText? (text : List Char) : Option RunId :=
  -- Each form has a length of its own, so at most one of them is tried.
  if text.length = 32 then ofBare? text
  else if text.length = 36 then ofGrouped? text
  else if text.length = 38 then
    if text.head? = some '\x7b' ∧ text.getLast? = some '\x7d' then
      ofGrouped? (text.drop 1).dropLast
    else none
  else if text.length = 45 then
    if (text.take urn.length).map Char.toLower = urn then ofGrouped? (text.drop urn.length)
    else none
  else none

instance : JsonForm RunId where
  toJson id := .str (String.ofList id.text)
  ofReading
    | .str text =>
      match ofText? text.toList with
      | some id => .ok id
      | none => .error .wrongShape
    | other => .error other.misfit

end RunId
end ReleasePipeline
