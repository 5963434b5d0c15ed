import ReleasePipeline.Command
import ReleasePipeline.RunId
import ReleasePipeline.Time.Instant

/-!
# `ReleasePipeline.Site`: what a pipeline needs from the place it runs in

Nothing in the pipeline touches the world by itself. A `Site` is the list of what it may ask for:
files, the running of commands, the time, and fresh identifiers. Every operation is an action of
some monad, so the same pipeline runs on a real machine and on a machine that is a plain value.
-/

set_option autoImplicit false

namespace ReleasePipeline

/-- Why the operating system refused something. -/
inductive OsError where
  | notFound
  | fileExists
  | notADirectory
  | isADirectory
  | nameTooLong
  | permissionDenied
  | argumentsTooLong
  | invalidName
  | notRegular
  /-- Any other refusal, in the words of the system. -/
  | other (message : String)
  deriving DecidableEq, Repr

/-- The wording of a refusal. -/
def OsError.message : OsError → String
  | .notFound => "No such file or directory (os error 2)"
  | .argumentsTooLong => "Argument list too long (os error 7)"
  | .permissionDenied => "Permission denied (os error 13)"
  | .fileExists => "File exists (os error 17)"
  | .notADirectory => "Not a directory (os error 20)"
  | .isADirectory => "Is a directory (os error 21)"
  | .nameTooLong => "File name too long (os error 36)"
  | .invalidName => "file name contained an unexpected NUL byte"
  | .notRegular => "the source path is neither a regular file nor a symlink to a regular file"
  | .other message => message

/-- What can be done with files. -/
structure Files (m : Type → Type) where
  read : Path → m (Except OsError ByteArray)
  write : Path → ByteArray → m (Except OsError Unit)
  /-- Makes a directory and the ones above it, as far as they are missing. -/
  createDirs : Path → m (Except OsError Unit)
  /-- Copies a file and returns its size. -/
  copy : Path → Path → m (Except OsError Nat)
  isFile : Path → m Bool

/-- What comes of running a command. -/
inductive Answer where
  /-- The command ended, or was stopped. -/
  | finished (output : CommandOutput)
  /-- The command could not be run: the causes, from the outermost to the root. -/
  | failed (causes : List String)
  /-- Running commands broke down altogether. -/
  | crashed (message : String)
  deriving DecidableEq

/-- What a pipeline needs from the place it runs in. -/
structure Site (m : Type → Type) extends Files m where
  invoke : Invocation → m Answer
  now : m Instant
  /-- The milliseconds on a clock that only goes forward. -/
  stopwatch : m UInt64
  newRunId : m RunId

end ReleasePipeline
