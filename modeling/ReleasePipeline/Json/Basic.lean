/-!
# `ReleasePipeline.Json.Basic`: values to write, and texts as far as they can be read

Two types, because writing and reading do not meet the same things. `Json` is a value that the
library writes; every one of them has a text. `Reading` is what a text holds as far as it can be
read. A text may break off, stop being JSON, or hold a number no field can take, and a
reader of records reports the fault that stands first. So a `Reading` keeps each fault in the
place where it was met, and everything before that place stays available.

`Json.toReading` says what is read when a written text is read back.
-/

set_option autoImplicit false

namespace ReleasePipeline

/-- A value to be written. -/
inductive Json where
  | null
  | bool (value : Bool)
  | int (value : Int)
  | str (text : String)
  | arr (items : List Json)
  | obj (members : List (String × Json))

/-- Why a text cannot be read as a value of the wanted type. -/
inductive Fault where
  /-- The text is not JSON. -/
  | notJson
  /-- The text is JSON, but of another shape: a wrong type, a missing or a repeated member. -/
  | wrongShape
  /-- The text ends too early. -/
  | endsEarly
  deriving DecidableEq, Repr

/-- What a text holds, as far as it can be read. A container carries the fault that cut it short.
A member whose name cannot be read has no name, and the fault in place of its value. -/
inductive Reading where
  | null
  | bool (value : Bool)
  /-- An integer that a signed or an unsigned 64-bit word holds. -/
  | int (value : Int)
  /-- Any other number. -/
  | real
  | str (text : String)
  | list (items : List Reading) (tear : Option Fault)
  | object (members : List (Option String × Reading)) (tear : Option Fault)
  /-- A number or a literal that the end of the text cuts off. -/
  | cutScalar
  /-- A place where a value should stand but none can be read. -/
  | broken (fault : Fault)

/-- The fault to report when a value of another type was wanted. -/
def Reading.misfit : Reading → Fault
  | .cutScalar => .endsEarly
  | .broken fault => fault
  | _ => .wrongShape

mutual

/-- What reading the text of a value gives. -/
def Json.toReading : Json → Reading
  | .null => .null
  | .bool value => .bool value
  | .int value => .int value
  | .str text => .str text
  | .arr items => .list (readItems items) none
  | .obj members => .object (readMembers members) none

/-- The readings of the items of an array. -/
def Json.readItems : List Json → List Reading
  | [] => []
  | item :: rest => item.toReading :: Json.readItems rest

/-- The readings of the members of an object. -/
def Json.readMembers : List (String × Json) → List (Option String × Reading)
  | [] => []
  | (name, value) :: rest => (some name, value.toReading) :: Json.readMembers rest

end

/-- The least integer that is read as an integer. -/
def minInteger : Int := -9223372036854775808

/-- The greatest integer that is read as an integer. -/
def maxInteger : Int := 18446744073709551615

/-- A type whose values are written as JSON and read back from it. -/
class JsonForm (α : Type) where
  /-- The value to write. -/
  toJson : α → Json
  /-- Reads a value back. -/
  ofReading : Reading → Except Fault α

export JsonForm (toJson ofReading)

end ReleasePipeline
