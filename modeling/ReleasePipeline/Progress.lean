import ReleasePipeline.Log
import ReleasePipeline.RunId
import ReleasePipeline.Step

/-!
# `ReleasePipeline.Progress`: a variant run under way

A `Progress` is what is known of a run while it goes on: the stage it has reached, every stage it
has passed, and the log entries nobody has taken yet. A stage that is done or failed is the last
one. Entering the stage a run is already in changes nothing, so the history has no repeats.
-/

set_option autoImplicit false

namespace ReleasePipeline

/-- What is known of a run while it goes on. -/
structure Progress where
  runId : RunId
  os : String
  stage : Stage
  history : List Stage
  /-- The log entries that were not taken yet, oldest first. -/
  buffered : List LogEntry
  deriving DecidableEq

namespace Progress

/-- A run that has not begun. -/
def start (runId : RunId) (os : String) : Progress where
  runId := runId
  os := os
  stage := .pending
  history := [.pending]
  buffered := []

/-- Enters a stage, unless the run is in it already or has come to its end. -/
def enter (progress : Progress) (next : Stage) : Progress :=
  if progress.stage = next ∨ progress.stage.isTerminal = true then progress
  else { progress with stage := next, history := progress.history ++ [next] }

/-- Notes a message. -/
def note (progress : Progress) (now : Instant) (level : LogLevel) (message : String) : Progress :=
  { progress with buffered := progress.buffered ++ [⟨now, level, message⟩] }

/-- Takes the entries noted so far out of the buffer. -/
def drain (progress : Progress) : List LogEntry × Progress :=
  (progress.buffered, { progress with buffered := [] })

/-- Notes every line of an output that is worth an entry, each with the moment that the clock
gives for it. -/
def noteOutput {m : Type → Type} [Monad m] (clock : m Instant) (level : LogLevel)
    (output : String) (progress : Progress) : m Progress := do
  let entries ← (notedLines output).mapM fun line => do
    let now ← clock
    pure (LogEntry.mk now level line)
  pure { progress with buffered := progress.buffered ++ entries }

end Progress
end ReleasePipeline
