import ReleasePipeline.Console.Paint
import ReleasePipeline.Outcome
import ReleasePipeline.Plan
import ReleasePipeline.Text.Pad

/-!
# `ReleasePipeline.Console.Summary`: what is shown to people

An outcome is shown variant by variant: every step on a line of its own, then the artifact, then
the end of the output of the step that failed. What became of the release comes last. Plans and
release descriptors are shown in full.

Every part is a list of lines, and the lines are put together at the very end.
-/

set_option autoImplicit false

namespace ReleasePipeline.Console

/-- The text of some lines, each with its end. -/
def unlines (lines : List String) : String :=
  String.join (lines.map (· ++ "\n"))

/-- How many lines of the output of a failed step are shown. -/
def tailLines : Nat := 20

/-- The width of the rule above and below an output. -/
def ruleWidth : Nat := 78

/-- The width of the column that holds the duration of a step. -/
def durationWidth : Nat := 9

/-- A number. -/
def number (n : Nat) : String :=
  String.ofList (Text.digits n)

/-- An exit code. -/
def exitCodeText (code : Int32) : String :=
  if code < 0 then "-" ++ number code.toInt.natAbs else number code.toInt.natAbs

section
variable (color : Bool)

/-- A stage, in the colour of how well things go. -/
def stageText (stage : Stage) : String :=
  let style : Style := match stage with
    | .done | .collected => .green
    | .failed _ => .red
    | _ => .yellow
  paint color style stage.text

/-- The kind of a status, in the colour of how well things went. -/
def statusText : PipelineStatus → String
  | .published _ => paint color .green "Published"
  | .notOnReleaseBranch .. => paint color .yellow "NotOnReleaseBranch"
  | .publishDeferred _ => paint color .yellow "PublishDeferred"
  | .skippedByGate => paint color .dimmed "SkippedByGate"
  | .variantsFailed => paint color .red "VariantsFailed"
  | .publishFailed kind _ => paint color .red kind.name

/-- How a step ended. -/
def stepStatus (result : StepResult) : String :=
  if result.timedOut then paint color .red "timed out"
  else
    match result.exitCode with
    | some code => "exit " ++ exitCodeText code
    | none => paint color .red "no exit code"

/-- A step on a line. -/
def stepLine (result : StepResult) : String :=
  let marker := if result.succeeded then paint color .green "✓" else paint color .red "✗"
  let duration := Text.alignRight durationWidth (number result.durationMs.toNat ++ "ms")
  "  " ++ marker ++ " " ++ Text.alignLeft PlannedStep.nameWidth result.step.id ++ " " ++
    paint color .dimmed duration ++ " " ++ stepStatus color result

/-- A log entry on a line. -/
def logLine (entry : LogEntry) : String :=
  let style : Style := match entry.level with
    | .debug => .dimmed
    | .info => .cyan
    | .warning => .yellow
    | .error => .red
  "  " ++ paint color .dimmed (String.ofList entry.timestamp.clockText) ++ " [" ++
    paint color style entry.level.text ++ "] " ++ entry.message

/-- The end of the output of a step that failed. -/
def outputLines (failed : StepResult) : List String :=
  let tail := failed.outputTail tailLines
  if tail.isEmpty then []
  else
    let rule := "  " ++ paint color .dimmed (String.ofList (List.replicate ruleWidth '─'))
    ["", "  " ++ paint color .bold ("Output of " ++ failed.step.id ++ ":"), rule] ++
      (Text.linesOf tail).map ("  " ++ ·) ++ [rule]

/-- What a report has to say on why a run failed. A run without steps can only say it by its
log. -/
def reasonLines (report : VariantReport) : List String :=
  match report.failedStep? with
  | some failed => outputLines color failed
  -- A run whose steps all succeeded has no reason to give.
  | none => if report.steps.isEmpty then report.logs.map (logLine color) else []

/-- A report. -/
def reportLines (report : VariantReport) : List String :=
  [paint color .cyan "▸" ++ " " ++ paint color .bold report.variant.text ++ " " ++
      stageText color report.stage,
    "  Run ID: " ++ paint color .dimmed (String.ofList report.runId.text)] ++
  report.steps.map (stepLine color) ++
  (report.artifact.map fun artifact =>
    "  Artifact: " ++ paint color .green artifact.path.text).toList ++
  reasonLines color report ++ [""]

/-- The release that an outcome led to. -/
def releaseLines (release : ReleaseDescriptor) : List String :=
  [paint color .bold "Release:", "  Tag:  " ++ paint color .cyan release.tag,
    "  Name: " ++ release.name, ""]

/-- What there is to say on a status. -/
def detailLines (outcome : PipelineOutcome) : List String :=
  match outcome.status with
  | .published release =>
    ["  URL:    " ++ release.url,
      "  Assets: " ++ String.intercalate ", " release.assets] ++
    (release.replaced.map fun id =>
      "  Replaced release " ++ paint color .dimmed (number id.toNat)).toList
  | .notOnReleaseBranch branch target =>
    ("  Branch " ++ paint color .yellow branch ++ " is not " ++ paint color .cyan target ++
      "; artifacts kept locally:") ::
    outcome.artifacts.map fun artifact => "    " ++ artifact.path.text
  | .publishDeferred built =>
    ["  Built " ++ paint color .cyan (String.intercalate ", " built) ++ "; run " ++
      paint color .bold "shipyard publish" ++ " once every variant is in"]
  | .publishFailed _ message => ["  " ++ paint color .red message]
  | .skippedByGate | .variantsFailed => []

/-- An outcome. -/
def outcomeText (outcome : PipelineOutcome) : String :=
  unlines <|
    outcome.variants.flatMap (reportLines color) ++
    (outcome.release.map (releaseLines color)).getD [] ++
    [paint color .bold "Outcome:" ++ " " ++ statusText color outcome.status] ++
    detailLines color outcome

/-- What is to be released. -/
def descriptorText (descriptor : ReleaseDescriptor) : String :=
  let yesNo (flag : Bool) : String := if flag then "true" else "false"
  unlines
    [paint color .bold "Release:",
      "  Tag:       " ++ paint color .cyan descriptor.tag,
      "  Name:      " ++ descriptor.name,
      "  Draft:     " ++ yesNo descriptor.draft,
      "  Overwrite: " ++ yesNo descriptor.overwrite,
      "  Files:     " ++ paint color .dimmed descriptor.fileGlob]

/-- The plan of a variant. -/
def planLines (config : Config) (variant : Variant) : List String :=
  (paint color .cyan "▸" ++ " " ++ paint color .bold variant.name ++ " " ++
    paint color .dimmed ("→ " ++ config.artifactName variant)) ::
  ((Plan.ofVariant config variant).zipIdx.map fun (step, index) =>
    "  " ++ Text.alignRight 2 (number (index + 1)) ++ ". " ++ step.text) ++ [""]

/-- The plans of all configured variants, and the variables that every tool is given. -/
def plansText (config : Config) : String :=
  unlines <|
    paint color .bold "Environment passed to every step:" ::
    (config.passthroughEnv.entries.map fun (name, value) =>
      "  " ++ paint color .cyan name ++ " = " ++ value) ++ [""] ++
    config.variants.flatMap (planLines color config)

end
end ReleasePipeline.Console
