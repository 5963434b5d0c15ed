import ReleasePipeline.Hosting.Http
import ReleasePipeline.Site
import Std.Time.DateTime.Timestamp

/-!
# `ReleasePipeline.Machine`: the machine the program runs on

The files, the clock and the random numbers of the machine, as a pipeline asks for them. A machine
reaches no host and starts no programs: a step that runs a command fails there, as it does where
its tool is not installed, and nothing can be published from there. What earlier runs left behind
can be looked at, and every plan can be shown.
-/

set_option autoImplicit false

namespace ReleasePipeline.Machine

/-- What a refusal of the system means. -/
def meaning : IO.Error → OsError
  | .noFileOrDirectory .. => .notFound
  | .alreadyExists .. => .fileExists
  | .permissionDenied .. => .permissionDenied
  | .inappropriateType _ code _ => if code = 21 then .isADirectory else .notADirectory
  | .invalidArgument _ code details =>
    if code = 36 then .nameTooLong
    else if code = 0 then .invalidName
    else .other details
  | error => .other (toString error)

/-- The result of something that the system may refuse. -/
def attempt {α : Type} (action : IO α) : IO (Except OsError α) := do
  let result ← action.toBaseIO
  pure (result.mapError meaning)

/-- Reads a file. -/
def read (path : Path) : IO (Except OsError ByteArray) :=
  attempt (IO.FS.readBinFile path.text)

/-- Writes a file. -/
def write (path : Path) (content : ByteArray) : IO (Except OsError Unit) :=
  attempt (IO.FS.writeBinFile path.text content)

/-- Makes a folder and the ones above it. -/
def createDirs (path : Path) : IO (Except OsError Unit) :=
  if path.text.isEmpty then pure (.ok ()) else attempt (IO.FS.createDirAll path.text)

/-- Copies a file. The source is opened first, so what is wrong with it is what is told. -/
def copy (source target : Path) : IO (Except OsError Nat) := do
  match ← read source with
  | .error .isADirectory => pure (.error .notRegular)
  | .error error => pure (.error error)
  | .ok content =>
    let written ← write target content
    pure (written.map fun _ => content.size)

/-- Whether a path leads to a file. -/
def isFile (path : Path) : IO Bool := do
  let kind ← attempt do
    let place ← IO.FS.realPath path.text
    let info ← place.metadata
    pure info.type
  match kind with
  | .ok .file => pure true
  | _ => pure false

/-- The present time. A clock that is out of range is taken to stand at its start. -/
def now : IO Instant := do
  let time ← Std.Time.Timestamp.now
  pure ((Instant.of? time.val.second.val time.val.nano.val.toNat).getD .epoch)

/-- The milliseconds on a clock that only goes forward. -/
def stopwatch : IO UInt64 := do
  let milliseconds ← IO.monoMsNow
  pure (UInt64.ofNat milliseconds)

/-- A fresh identifier. -/
def newRunId : IO RunId := do
  let bytes ← IO.getRandomBytes 16
  pure (.ofRandom (bytes.data.foldl (fun number byte => number * 256 + byte.toNat) 0))

/-- What comes of a command: nothing, for it cannot be started. -/
def invoke (invocation : Invocation) : IO Answer :=
  pure (.failed
    ["Failed to execute '" ++ invocation.command.text ++ "'", "programs cannot be started here"])

/-- The machine as a place to run a pipeline in. -/
def site : Site IO where
  read := read
  write := write
  createDirs := createDirs
  copy := copy
  isFile := isFile
  invoke := invoke
  now := now
  stopwatch := stopwatch
  newRunId := newRunId

/-- The way to other hosts, which leads nowhere. -/
def transport : Http.Transport IO where
  send request := pure (.error ("no way to " ++ request.url.text))

end ReleasePipeline.Machine
