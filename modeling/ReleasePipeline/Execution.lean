import ReleasePipeline.Plan
import ReleasePipeline.Report
import ReleasePipeline.Site

/-!
# `ReleasePipeline.Execution`: carrying out the plan of a variant

The steps of a plan are carried out one after the other until one fails. The failing step decides
how the run failed, and nothing after it is done. A run whose steps all succeed is collected, and
its report names the artifact.

`perform` does one action, `runSteps` the steps of a plan, and `execute` a whole variant run.
-/

set_option autoImplicit false

namespace ReleasePipeline

/-- The message of a breakdown that ended a run without a report. -/
abbrev Crash := String

/-- What an action left behind. -/
structure ActionOutcome where
  exitCode : Option Int32
  timedOut : Bool
  output : String
  deriving DecidableEq

namespace ActionOutcome

/-- An action that succeeded. -/
def success (output : String) : ActionOutcome := ⟨some 0, false, output⟩

/-- An action that failed without an exit code. -/
def failure (output : String) : ActionOutcome := ⟨none, false, output⟩

/-- What is left of running a command. -/
def ofAnswer : Answer → Except Crash ActionOutcome
  | .finished output => .ok ⟨output.exitCode, output.timedOut, output.combined⟩
  | .failed causes => .ok (failure (String.intercalate ": " causes))
  | .crashed message => .error message

/-- What is left of making a directory. -/
def ofCreateDir (path : Path) : Except OsError Unit → ActionOutcome
  | .ok () => success ""
  | .error error => failure ("Failed to create " ++ path.text ++ ": " ++ error.message)

/-- What is left of copying a file. -/
def ofCopy (source target : Path) : Except OsError Nat → ActionOutcome
  | .ok size =>
    success ("Copied " ++ String.ofList (Text.digits size) ++ " bytes to " ++ target.text)
  | .error error =>
    failure ("Failed to copy " ++ source.text ++ " to " ++ target.text ++ ": " ++ error.message)

end ActionOutcome

namespace Execution

/-- How a command of a pipeline is run: in the source directory, with the variables every tool is
given, and within the time a step may take. -/
def invocation (config : Config) (command : Command) : Invocation where
  command := command
  cwd := config.sourceDir
  env := config.passthroughEnv
  timeoutSeconds := config.stepTimeoutSeconds

section
variable {m : Type → Type} [Monad m]

/-- Does what a step does. -/
def perform (site : Site m) (config : Config) : StepAction → m (Except Crash ActionOutcome)
  | .run command => do
    let answer ← site.invoke (invocation config command)
    pure (ActionOutcome.ofAnswer answer)
  | .createDir path => do
    let result ← site.createDirs path
    pure (.ok (.ofCreateDir path result))
  | .copy source target => do
    let result ← site.copy source target
    pure (.ok (.ofCopy source target result))

/-- Carries out one step. -/
def runStep (site : Site m) (config : Config) (step : PlannedStep) :
    m (Except Crash StepResult) := do
  let started ← site.stopwatch
  match ← perform site config step.action with
  | .error crash => pure (.error crash)
  | .ok outcome =>
    let stopped ← site.stopwatch
    pure (.ok ⟨step.kind, outcome.exitCode, outcome.timedOut, outcome.output, stopped - started⟩)

/-- Notes a message with the present time. -/
def noteNow (site : Site m) (level : LogLevel) (message : String) (progress : Progress) :
    m Progress := do
  let now ← site.now
  pure (progress.note now level message)

/-- Notes that a step begins. -/
def beginStep (site : Site m) (kind : StepKind) (progress : Progress) : m Progress :=
  let entered := match kind.stage? with
    | some stage => progress.enter stage
    | none => progress
  noteNow site .info ("Starting step: " ++ kind.id) entered

/-- Notes that a step succeeded, behind what it printed. -/
def completeStep (site : Site m) (result : StepResult) (progress : Progress) : m Progress := do
  let progress ← progress.noteOutput site.now .debug result.output
  noteNow site .info ("Step '" ++ result.step.id ++ "' completed") progress

/-- Notes that a step failed, in front of what it printed, and fails the run. -/
def failStep (site : Site m) (result : StepResult) (progress : Progress) : m Progress := do
  let kind := result.step.failureKind
  let progress ←
    noteNow site .error ("Step '" ++ result.step.id ++ "' failed: " ++ kind.name) progress
  let progress ← progress.noteOutput site.now .error result.output
  pure (progress.enter (.failed kind))

/-- How far the steps of a plan came. -/
structure Walk where
  progress : Progress
  results : List StepResult
  /-- Whether all steps succeeded. -/
  completed : Bool

/-- Carries out the steps of a plan until one fails. -/
def runSteps (site : Site m) (config : Config) :
    List PlannedStep → Progress → m (Except Crash Walk)
  | [], progress => pure (.ok ⟨progress, [], true⟩)
  | step :: rest, progress => do
    let progress ← beginStep site step.kind progress
    match ← runStep site config step with
    | .error crash => pure (.error crash)
    | .ok result =>
      if result.succeeded then do
        let progress ← completeStep site result progress
        match ← runSteps site config rest progress with
        | .error crash => pure (.error crash)
        | .ok walk => pure (.ok { walk with results := result :: walk.results })
      else do
        let progress ← failStep site result progress
        -- The failed step is reported too. The steps behind it are not begun.
        pure (.ok ⟨progress, [result], false⟩)

/-- The report of a run. -/
def report (progress : Progress) (variant : Variant) (steps : List StepResult)
    (artifact : Option Artifact) : VariantReport where
  runId := progress.runId
  variant := variant
  stage := progress.stage
  history := progress.history
  steps := steps
  artifact := artifact
  logs := progress.drain.1

/-- Runs a variant. -/
def execute (site : Site m) (config : Config) (variant : Variant) :
    m (Except Crash VariantReport) := do
  let runId ← site.newRunId
  let progress ← noteNow site .info ("Starting variant: " ++ variant.text)
    (Progress.start runId variant.os)
  match ← runSteps site config (Plan.ofVariant config variant) progress with
  | .error crash => pure (.error crash)
  | .ok walk =>
    if walk.completed then do
      let artifact := Artifact.ofVariant config variant
      let progress ← noteNow site .info ("Collected artifact " ++ artifact.fileName)
        (walk.progress.enter .collected)
      pure (.ok (report (progress.enter .done) variant walk.results (some artifact)))
    -- The step that failed has set the stage.
    else pure (.ok (report walk.progress variant walk.results none))

end
end Execution
end ReleasePipeline
