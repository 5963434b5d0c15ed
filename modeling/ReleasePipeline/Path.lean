import ReleasePipeline.Json.Record
import ReleasePipeline.Text.Pieces

/-!
# `ReleasePipeline.Path`: names of files

A path is kept as it was written: joining adds text and never tidies up, so `./dist`, `a//b` and
`..` stay what they are. Which file a path means is another matter. `resolve` settles it for a
given working directory by the names alone: it drops empty names and `.`, and lets `..` take back
the name before it.
-/

set_option autoImplicit false

namespace ReleasePipeline

/-- The name of a file or directory. -/
structure Path where
  text : String
  deriving DecidableEq, Repr

namespace Path

/-- Whether a path starts at the root. -/
def isAbsolute (path : Path) : Bool :=
  path.text.toList.head? == some '/'

/-- The path of a file named relative to another path. An absolute name stands for itself, and a
separator is added where the left side needs one. -/
def join (base : Path) (name : String) : Path :=
  if (Path.mk name).isAbsolute then ⟨name⟩
  else if base.text.isEmpty || base.text.toList.getLast? == some '/' then ⟨base.text ++ name⟩
  else ⟨base.text ++ "/" ++ name⟩

/-- The names a path is made of, empty ones and `.` included. -/
def names (path : Path) : List String :=
  (Text.pieces (· == '/') path.text.toList).map String.ofList

/-- Follows one name from a place, which is the list of the names that lead there. -/
def enter (place : List String) (name : String) : List String :=
  if name = "" ∨ name = "." then place
  else if name = ".." then place.dropLast
  else place ++ [name]

/-- The place a path leads to from a place, by the names alone. -/
def resolve (from' : List String) (path : Path) : List String :=
  path.names.foldl enter (if path.isAbsolute then [] else from')

instance : JsonForm Path where
  toJson path := .str path.text
  ofReading reading := (ofReading reading).map Path.mk

end Path
end ReleasePipeline
