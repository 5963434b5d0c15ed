import ReleasePipeline.Path
import ReleasePipeline.Site

/-!
# `ReleasePipeline.FileSystem`: a tree of files as a value

A file system maps places to what stands there. A place is the list of names that lead to it from
the root, which is always a folder. Paths are followed name by name, and every name but the last
one has to lead into a folder that exists, `..` included: unlike `Path.resolve`, which only looks
at the names, `walk` can be refused.

There are no links, so every place has one way to it.
-/

set_option autoImplicit false

namespace ReleasePipeline

/-- What stands at a place. -/
inductive Node where
  | file (content : ByteArray)
  | folder

/-- A place in a file system: the names that lead to it from the root. -/
abbrev Place := List String

/-- A tree of files, and the folder that relative paths start from. -/
structure FileSystem where
  workingDir : Place
  nodes : List (Place × Node)

namespace FileSystem

/-- The greatest number of bytes in a name. -/
def maxName : Nat := 255

/-- The greatest number of bytes in a path. -/
def maxPath : Nat := 4095

/-- What stands at a place. -/
def get? (fs : FileSystem) (place : Place) : Option Node :=
  if place = [] then some .folder else fs.nodes.lookup place

/-- Puts something at a place. -/
def put (fs : FileSystem) (place : Place) (node : Node) : FileSystem :=
  { fs with nodes := (place, node) :: fs.nodes.filter fun entry => entry.1 ≠ place }

/-- Takes away what stands at a place, and everything below it. -/
def clear (fs : FileSystem) (place : Place) : FileSystem :=
  { fs with nodes := fs.nodes.filter fun entry => !place.isPrefixOf entry.1 }

/-- A file system that holds nothing but a folder to work in and what leads there. -/
def empty (workingDir : Place) : FileSystem where
  workingDir := workingDir
  nodes := (List.range workingDir.length).map fun n => (workingDir.take (n + 1), .folder)

/-! ### Following paths -/

/-- Checks that a place is a folder that a name may be looked up in. -/
def checkFolder (fs : FileSystem) (place : Place) : Except OsError Unit :=
  match fs.get? place with
  | none => .error .notFound
  | some (.file _) => .error .notADirectory
  | some .folder => .ok ()

/-- Follows names from a place. What the last name leads to need not exist. -/
def walk (fs : FileSystem) (place : Place) : List String → Except OsError Place
  | [] => .ok place
  | name :: rest =>
    match fs.checkFolder place with
    | .error error => .error error
    | .ok () =>
      if maxName < name.utf8ByteSize then .error .nameTooLong
      else fs.walk (Path.enter place name) rest

/-- Checks that a text can be a path at all. -/
def checkText (path : Path) : Except OsError Unit :=
  if path.text.toList.contains '\x00' then .error .invalidName
  else if path.text.isEmpty then .error .notFound
  else if maxPath < path.text.utf8ByteSize then .error .nameTooLong
  else .ok ()

/-- Where the names of a path start from. -/
def start (fs : FileSystem) (path : Path) : Place :=
  if path.isAbsolute then [] else fs.workingDir

/-- The place of a path. -/
def locate (fs : FileSystem) (path : Path) : Except OsError Place := do
  checkText path
  fs.walk (fs.start path) path.names

/-- The names of a path without the empty ones at its end. -/
def trimNames (path : Path) : List String :=
  (path.names.reverse.dropWhile (· = "")).reverse

/-! ### Files -/

/-- Reads a file. -/
def read (fs : FileSystem) (path : Path) : Except OsError ByteArray := do
  let place ← fs.locate path
  match fs.get? place with
  | none => .error .notFound
  | some .folder => .error .isADirectory
  | some (.file content) => .ok content

/-- Whether a path leads to a file. -/
def isFile (fs : FileSystem) (path : Path) : Bool :=
  match fs.locate path with
  | .error _ => false
  | .ok place =>
    match fs.get? place with
    | some (.file _) => true
    | _ => false

/-- The place of a file that is to be written. A path that ends in separators names no file,
whatever stands there, as long as there is a folder for it to stand in. -/
def locateForWrite (fs : FileSystem) (path : Path) : Except OsError Place := do
  checkText path
  if path.names.getLast? = some "" then
    -- The folders on the way are looked at first, so what is wrong with them is what counts.
    let above ← fs.walk (fs.start path) (trimNames path).dropLast
    fs.checkFolder above
    .error .isADirectory
  else
    let place ← fs.walk (fs.start path) path.names
    match fs.get? place with
    | some .folder => .error .isADirectory
    | _ => .ok place

/-- Writes a file, which is made if it is not there. -/
def write (fs : FileSystem) (path : Path) (content : ByteArray) :
    Except OsError FileSystem := do
  let place ← fs.locateForWrite path
  .ok (fs.put place (.file content))

/-- Copies a file, and returns its size. A file copied onto itself is emptied first, and nothing
is left to copy. -/
def copy (fs : FileSystem) (source target : Path) : Except OsError (Nat × FileSystem) := do
  let sourcePlace ← fs.locate source
  match fs.get? sourcePlace with
  | none => .error .notFound
  | some .folder => .error .notRegular
  | some (.file content) =>
    let targetPlace ← fs.locateForWrite target
    -- The target is emptied when it is opened, before the first byte is read.
    if targetPlace = sourcePlace then .ok (0, fs.put targetPlace (.file ByteArray.empty))
    else .ok (content.size, fs.put targetPlace (.file content))

/-! ### Folders -/

/-- Makes a folder in a folder that is there. -/
def makeFolder (fs : FileSystem) (path : Path) : Except OsError FileSystem := do
  checkText path
  let names := trimNames path
  let place ← fs.walk (fs.start path) names.dropLast
  let _ ← fs.checkFolder place
  -- A path of separators alone is the root, which is there.
  match names.getLast? with
  | none => .error .fileExists
  | some name =>
    if name = "." ∨ name = ".." then .error .fileExists
    else if maxName < name.utf8ByteSize then .error .nameTooLong
    else
      match fs.get? (place ++ [name]) with
      | some _ => .error .fileExists
      | none => .ok (fs.put (place ++ [name]) .folder)

/-- Whether a path leads to a folder. -/
def isFolder (fs : FileSystem) (path : Path) : Bool :=
  match fs.locate path with
  | .error _ => false
  | .ok place =>
    match fs.get? place with
    | some .folder => true
    | _ => false

/-- The names of a path that count: no empty ones, and `.` only in front of a relative path. -/
def components (path : Path) : List String :=
  match path.names.filter (· ≠ "") with
  | [] => []
  | first :: rest =>
    let rest := rest.filter (· ≠ ".")
    if first = "." ∧ path.isAbsolute = true then rest else first :: rest

/-- The path of some names, from the root if it is absolute. -/
def ofComponents (absolute : Bool) (names : List String) : Path :=
  ⟨(if absolute then "/" else "") ++ String.intercalate "/" names⟩

/-- The paths that lead to a path, from the nearest one on. -/
def parents (path : Path) : List Path :=
  go path.isAbsolute (components path).dropLast.reverse (components path)
where
  /-- One path for each number of names that can be left. -/
  go (absolute : Bool) : List String → List String → List Path
    | _, [] => []
    | [], _ :: _ => if absolute then [ofComponents true []] else []
    | name :: names, _ :: rest =>
      ofComponents absolute (name :: names).reverse :: go absolute names rest

/-- Goes up until a folder can be made or is there. Returns the folders that are still to be made,
from the topmost one on. -/
def climb (fs : FileSystem) (missing : List Path) :
    List Path → Except OsError (FileSystem × List Path)
  | [] => .ok (fs, missing)
  | path :: above =>
    match fs.makeFolder path with
    | .ok made => .ok (made, missing)
    -- Something above is missing: that is made first, and this one after it.
    | .error .notFound => climb fs (path :: missing) above
    | .error .fileExists =>
      if fs.isFolder path then .ok (fs, missing) else .error .fileExists
    | .error error => .error error

/-- Makes folders one after the other, as far as it is possible. -/
def makeAll (fs : FileSystem) : List Path → Except OsError Unit × FileSystem
  | [] => (.ok (), fs)
  | path :: rest =>
    match fs.makeFolder path with
    | .ok made => makeAll made rest
    | .error .fileExists =>
      -- A name such as `..` leads to a folder that is there by now.
      if fs.isFolder path then makeAll fs rest else (.error .fileExists, fs)
    | .error error => (.error error, fs)

/-- Makes a folder and the ones above it, as far as they are missing. Folders that were made stay
even if a later one cannot be made. -/
def createDirs (fs : FileSystem) (path : Path) : Except OsError Unit × FileSystem :=
  if path.text.isEmpty then (.ok (), fs)
  else
    match climb fs [] (path :: parents path) with
    | .error error => (.error error, fs)
    | .ok (fs, missing) => makeAll fs missing

/-- The path that leads to a path, or the empty one if it is a single name. -/
def parent (path : Path) : Path :=
  (parents path).headD ⟨""⟩

/-- Writes a file and makes the folders above it, unless something is in the way. -/
def place (fs : FileSystem) (path : Path) (content : ByteArray) : FileSystem :=
  match fs.createDirs (parent path) with
  | (.error _, fs) => fs
  | (.ok (), fs) =>
    match fs.write path content with
    | .ok fs => fs
    | .error _ => fs

/-- Takes away a file, or a folder with everything in it. Tells whether there was one. -/
def remove (fs : FileSystem) (path : Path) : Bool × FileSystem :=
  match fs.locate path with
  | .error _ => (false, fs)
  | .ok place =>
    match fs.get? place with
    | none => (false, fs)
    | some _ => (true, fs.clear place)

/-- What stands below the working folder, each with its names from there. -/
def listing (fs : FileSystem) : List (Place × Node) :=
  fs.nodes.filterMap fun (place, node) =>
    if fs.workingDir.isPrefixOf place && fs.workingDir ≠ place then
      some (place.drop fs.workingDir.length, node)
    else none

end FileSystem
end ReleasePipeline
