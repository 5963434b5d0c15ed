import ReleasePipeline.Artifact
import ReleasePipeline.Progress

/-!
# `ReleasePipeline.Report`: the report of a variant run

A report is complete in itself: what was built, how far the run came and by which stages, what
every step left behind, the artifact if there is one, and the log. A run succeeded when it is done
and has an artifact. A run that could not be carried out has a report as well, with the
reason in its log.
-/

set_option autoImplicit false

namespace ReleasePipeline

/-- The report of a variant run. -/
structure VariantReport where
  runId : RunId
  variant : Variant
  stage : Stage
  history : List Stage
  steps : List StepResult
  artifact : Option Artifact
  logs : List LogEntry
  deriving DecidableEq

namespace VariantReport

/-- The report of a run that could not be carried out. -/
def aborted (runId : RunId) (now : Instant) (variant : Variant) (reason : String) :
    VariantReport where
  runId := runId
  variant := variant
  stage := .failed .aborted
  history := [.pending, .failed .aborted]
  steps := []
  artifact := none
  logs := [⟨now, .error, reason⟩]

/-- Whether the run came to its end and left an artifact. -/
def succeeded (report : VariantReport) : Bool :=
  report.stage == .done && report.artifact.isSome

/-- The kind of failure that ended the run, if one did. -/
def failure? (report : VariantReport) : Option FailureKind :=
  match report.stage with
  | .failed kind => some kind
  | _ => none

/-- The step that failed: the last one that was run, if it did not succeed. -/
def failedStep? (report : VariantReport) : Option StepResult :=
  report.steps.getLast?.filter fun step => !step.succeeded

instance : JsonForm VariantReport where
  toJson report := .obj
    [("run_id", toJson report.runId), ("variant", toJson report.variant),
     ("state", toJson report.stage), ("history", toJson report.history),
     ("steps", toJson report.steps), ("artifact", toJson report.artifact),
     ("logs", toJson report.logs)]
  ofReading := Fields.record <|
    VariantReport.mk <$> .required "run_id" <*> .required "variant" <*> .required "state" <*>
      .required "history" <*> .required "steps" <*> .optional "artifact" <*> .required "logs"

end VariantReport
end ReleasePipeline
