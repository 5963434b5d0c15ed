import ReleasePipeline.Json.Parser
import ReleasePipeline.Json.Record

/-!
# `ReleasePipeline.Json.Document`: whole documents of no particular type

A document is read for its own sake where its type is open: a request, or the body of an answer
that may name its error. It has no fault anywhere, its containers nest at most `depthLimit` deep,
and of two members of one name the later one counts. Its members stand in the order of their
names.
-/

set_option autoImplicit false

namespace ReleasePipeline

/-- How many containers may stand inside each other. -/
def depthLimit : Nat := 127

/-- Puts a member at its place among members that stand in the order of their names. -/
def placeMember (name : String) (value : Reading) :
    List (Option String × Reading) → List (Option String × Reading)
  | [] => [(some name, value)]
  | (other, old) :: rest =>
    match other with
    | none => (some name, value) :: (other, old) :: rest
    | some found =>
      if name < found then (some name, value) :: (other, old) :: rest
      else if found < name then (other, old) :: placeMember name value rest
      else (some name, value) :: rest

namespace Reading

mutual

/-- The document of a reading whose containers may nest `depth` deep, or the first fault in it. -/
def document (depth : Nat) : Reading → Except Fault Reading
  | .list items tear =>
    match depth with
    | 0 => .error .notJson
    | depth + 1 => do
      let items ← documentItems depth items
      match tear with
      | none => .ok (.list items none)
      | some fault => .error fault
  | .object members tear =>
    match depth with
    | 0 => .error .notJson
    | depth + 1 => do
      let members ← documentMembers depth [] members
      match tear with
      | none => .ok (.object members none)
      | some fault => .error fault
  | .cutScalar => .error .endsEarly
  | .broken fault => .error fault
  | other => .ok other

/-- The documents of the items of an array. -/
def documentItems (depth : Nat) : List Reading → Except Fault (List Reading)
  | [] => .ok []
  | item :: rest => do
    let item ← document depth item
    let rest ← documentItems depth rest
    .ok (item :: rest)

/-- The documents of the members of an object, put among those that were read before. -/
def documentMembers (depth : Nat) (before : List (Option String × Reading)) :
    List (Option String × Reading) → Except Fault (List (Option String × Reading))
  | [] => .ok before
  | (none, value) :: _ => .error value.misfit
  | (some name, value) :: rest => do
    let value ← document depth value
    documentMembers depth (placeMember name value before) rest

end

/-- The value of a member of an object. -/
def member? (name : String) : Reading → Option Reading
  | .object members _ => members.lookup (some name)
  | _ => none

/-- The text of a string. -/
def text? : Reading → Option String
  | .str text => some text
  | _ => none

end Reading

/-- Reads a text as a document. -/
def Json.readDocument (bytes : List UInt8) : Except Fault Reading :=
  Json.decode (Reading.document depthLimit) bytes

end ReleasePipeline
