import ReleasePipeline.Progress

/-!
# `ReleasePipeline.LogBuffer`: log buffers that are shared

What a run notes goes to a log buffer. The run is not alone with it: whoever has a handle of the
buffer can add entries, take out all that are there, and count them. A handle can be cloned, and
all clones are of one buffer, so what is done through one of them is seen through all.

`LogBuffers` is a run with its buffer, and the other log buffers there are. `step` is what is done
with them, be it by the run or through a handle, and `run` is one step after the other. Only
taking entries out has an answer, which are the entries that were taken.
-/

set_option autoImplicit false

namespace ReleasePipeline

/-- A handle of a log buffer. -/
inductive LogHandle where
  /-- The one that the run has of its buffer. -/
  | ofRun
  /-- The first one of another buffer; these are numbered. -/
  | other (number : Nat)
  | clone (of : LogHandle)
  deriving DecidableEq, Repr

/-- What is done while a run goes on, as far as log buffers may have to do with it. -/
inductive LogEvent where
  /-- The run enters a stage. -/
  | enter (stage : Stage)
  /-- The run notes a message. -/
  | note (level : LogLevel) (message : String)
  /-- The run notes an output line by line. -/
  | noteOutput (level : LogLevel) (output : String)
  /-- An entry is added through a handle. -/
  | add (handle : LogHandle) (entry : LogEntry)
  /-- All entries are taken out through a handle. -/
  | drain (handle : LogHandle)
  deriving DecidableEq

/-- A run under way with its log buffer, and the entries in all other log buffers, oldest first. -/
structure LogBuffers where
  progress : Progress
  others : Nat → List LogEntry

namespace LogBuffers

/-- A run with its buffer, where nothing is in the others. -/
def ofProgress (progress : Progress) : LogBuffers where
  progress := progress
  others := fun _ => []

/-- The entries in the buffer of a handle. -/
def entries (buffers : LogBuffers) : LogHandle → List LogEntry
  | .ofRun => buffers.progress.buffered
  | .other number => buffers.others number
  | .clone of => buffers.entries of

/-- How many entries are in the buffer of a handle. -/
def count (buffers : LogBuffers) (handle : LogHandle) : Nat :=
  (buffers.entries handle).length

/-- Whether the buffer of a handle is empty. -/
def isEmpty (buffers : LogBuffers) (handle : LogHandle) : Bool :=
  buffers.count handle == 0

/-- The buffers with other entries in one that is not the run's. -/
def withOther (buffers : LogBuffers) (number : Nat) (entries : List LogEntry) : LogBuffers :=
  { buffers with others := fun n => if n = number then entries else buffers.others n }

/-- Adds an entry through a handle. -/
def add (buffers : LogBuffers) (entry : LogEntry) : LogHandle → LogBuffers
  | .ofRun =>
    { buffers with
      progress := buffers.progress.note entry.timestamp entry.level entry.message }
  | .other number => buffers.withOther number (buffers.others number ++ [entry])
  | .clone of => buffers.add entry of

/-- Takes out all entries through a handle. -/
def drain (buffers : LogBuffers) : LogHandle → List LogEntry × LogBuffers
  | .ofRun =>
    let (taken, progress) := buffers.progress.drain
    (taken, { buffers with progress := progress })
  | .other number => (buffers.others number, buffers.withOther number [])
  | .clone of => buffers.drain of

section
variable {m : Type → Type} [Monad m]

/-- What an event does, and the entries that it takes out. -/
def step (clock : m Instant) (buffers : LogBuffers) : LogEvent → m (List LogEntry × LogBuffers)
  | .enter stage => pure ([], { buffers with progress := buffers.progress.enter stage })
  | .note level message => do
    let now ← clock
    pure ([], { buffers with progress := buffers.progress.note now level message })
  | .noteOutput level output => do
    let progress ← buffers.progress.noteOutput clock level output
    pure ([], { buffers with progress := progress })
  | .add handle entry => pure ([], buffers.add entry handle)
  | .drain handle => pure (buffers.drain handle)

/-- What events do one after the other, and the entries that each of them takes out. -/
def run (clock : m Instant) : List LogEvent → LogBuffers → m (List (List LogEntry) × LogBuffers)
  | [], buffers => pure ([], buffers)
  | event :: rest, buffers => do
    let (taken, buffers) ← buffers.step clock event
    let (more, buffers) ← run clock rest buffers
    pure (taken :: more, buffers)

end
end LogBuffers
end ReleasePipeline
