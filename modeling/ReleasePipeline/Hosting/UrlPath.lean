import ReleasePipeline.Hosting.Scheme
import ReleasePipeline.Text.Percent
import ReleasePipeline.Text.Pieces

/-!
# `ReleasePipeline.Hosting.UrlPath`: paths of addresses

A path is a list of names with a slash in front of each. `.` and `..` are no names: they are taken
out, and so is the name that `..` goes back over. The name of a drive stays, since there is nothing
above it.
-/

set_option autoImplicit false

namespace ReleasePipeline

/-- What follows the host of an address, or its scheme. -/
inductive UrlPath where
  /-- Names, each with a slash in front. -/
  | names (names : List String)
  /-- A text that leads nowhere. -/
  | plain (text : String)
  deriving DecidableEq, Repr

namespace UrlPath

/-- The characters that cannot stand in a path. -/
def special : List Char := [' ', '"', '<', '>', '\x60', '#', '?', '^', '\x7b', '\x7d']

/-- Whether a name stays where it is. -/
def isHere (name : List Char) : Bool :=
  name.map Char.toLower ∈ [['.'], ['%', '2', 'e']]

/-- Whether a name goes back one name. -/
def isBack (name : List Char) : Bool :=
  name.map Char.toLower ∈
    [['.', '.'], ['.', '%', '2', 'e'], ['%', '2', 'e', '.'], ['%', '2', 'e', '%', '2', 'e']]

/-- Whether a name is that of a drive: a letter, and a colon or what is taken for one. -/
def isDrive : List Char → Bool
  | [letter, mark] => letter.isAlpha && (mark == ':' || mark == '|')
  | _ => false

/-- The names without the last one, unless that is a drive. -/
def back (names : List (List Char)) : List (List Char) :=
  if names.getLast?.any isDrive then names else names.dropLast

/-- Adds a name. The first name of a file may be a drive, which has a colon. -/
def add (kind : SchemeKind) (names : List (List Char)) (name : List Char) : List (List Char) :=
  if kind = .file ∧ names.isEmpty ∧ isDrive name then [name.take 1 ++ [':']] else names ++ [name]

/-- Follows names. One that is last and no name of its own leaves an empty name. -/
def follow (kind : SchemeKind) (before : List (List Char)) :
    List (List Char) → List (List Char)
  | [] => before
  | [name] =>
    if isBack name then back before ++ [[]]
    else if isHere name then before ++ [[]]
    else add kind before name
  | name :: rest =>
    if isBack name then follow kind (back before) rest
    else if isHere name then follow kind before rest
    else follow kind (add kind before name) rest

/-- The names of a path, which may start with a slash. -/
def readNames (kind : SchemeKind) (text : List Char) : List (List Char) :=
  let text := if text.head?.any kind.isSlash then text.drop 1 else text
  follow kind [] (Text.pieces kind.isSlash text)

/-- The names without empty ones in front, as far as others follow. -/
def dropEmpty (names : List (List Char)) : List (List Char) :=
  match names.dropWhile List.isEmpty with
  | [] => [[]]
  | rest => rest

/-- The path of some names. -/
def ofNames (names : List (List Char)) : UrlPath :=
  .names (names.map fun name => String.ofList (Text.percentEncode special name))

/-- The path behind a host. Only where there need not be a host, there need not be a path. -/
def read (kind : SchemeKind) (text : List Char) : UrlPath :=
  if kind = .other ∧ text.isEmpty then .names []
  else ofNames (readNames kind text)

/-- A path as text. -/
def text : UrlPath → String
  | .names parts => String.join (parts.map ("/" ++ ·))
  | .plain text => text

/-- Whether a path would be taken for a host if there is none in front of it. -/
def looksLikeHost : UrlPath → Bool
  | .names ("" :: _ :: _) => true
  | _ => false

end UrlPath
end ReleasePipeline
