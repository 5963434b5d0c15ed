import ReleasePipeline.Hosting.Http
import ReleasePipeline.Rehearsal.HostBook
import ReleasePipeline.Rehearsal.Script
import ReleasePipeline.Rehearsal.Workshop

/-!
# `ReleasePipeline.Rehearsal.World`: a place to run a pipeline in that is a plain value

A world is a tree of files, a release host, and a list of the commands that were run. Time stands
still in it, but every identifier that is asked for is a new one. What a command does is up to
whoever plays it: a script or a workshop.
-/

set_option autoImplicit false

namespace ReleasePipeline.Rehearsal

/-- A place to run a pipeline in. -/
structure World where
  files : FileSystem
  host : HostBook
  /-- The commands that were run, oldest first. -/
  invocations : List Invocation
  /-- How many identifiers were asked for. -/
  drawn : Nat

namespace World

/-- Changes the files of a world. -/
def onFiles {α : Type} (action : FileSystem → α × FileSystem) : StateM World α := fun world =>
  let (result, files) := action world.files
  (result, { world with files := files })

/-- Changes the host of a world. -/
def onHost {α : Type} (action : HostBook → α × HostBook) : StateM World α := fun world =>
  let (result, host) := action world.host
  (result, { world with host := host })

/-- The result of a change that may be refused, and then changes nothing. -/
def orSame {α : Type} (files : FileSystem) :
    Except OsError (α × FileSystem) → Except OsError α × FileSystem
  | .ok (result, changed) => (.ok result, changed)
  | .error error => (.error error, files)

/-- The files of a world, as a pipeline asks for them. -/
def fileAccess : Files (StateM World) where
  read path := onFiles fun files => (files.read path, files)
  write path content := onFiles fun files =>
    orSame files ((files.write path content).map ((), ·))
  createDirs path := onFiles fun files => files.createDirs path
  copy source target := onFiles fun files => orSame files (files.copy source target)
  isFile path := onFiles fun files => (files.isFile path, files)

/-- The host of a world, as publishing asks for it. -/
def hostAccess : ReleaseHost (StateM World) where
  find tag := onHost (HostBook.find tag)
  create release := onHost (HostBook.create release)
  upload release name contents := onHost (HostBook.upload release name contents)
  delete id := onHost (HostBook.delete id)

/-- A world as a place to run a pipeline in, where commands are played in some way. -/
def site (play : FileSystem → Invocation → Answer × FileSystem) : Site (StateM World) :=
  { fileAccess with
    invoke := fun invocation => do
      modify fun world => { world with invocations := world.invocations ++ [invocation] }
      onFiles fun files => play files invocation
    now := pure .epoch
    stopwatch := pure 0
    newRunId := fun world => (.ofNat world.drawn, { world with drawn := world.drawn + 1 }) }

end World

/-- A transport that reaches nobody. -/
def unreachable {m : Type → Type} [Monad m] : Http.Transport m where
  send request := pure (.error ("error sending request for url (" ++ request.url.text ++ ")"))

end ReleasePipeline.Rehearsal
