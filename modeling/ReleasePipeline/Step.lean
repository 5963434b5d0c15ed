import ReleasePipeline.Json.Record
import ReleasePipeline.Text.Lines

/-!
# `ReleasePipeline.Step`: the steps of a variant run

Every variant goes through the same ten steps in the same order. A step that fails ends the run,
and its kind decides what kind of failure that is. `Stage` is where a run stands: waiting, at the
work of some step, at its end, or failed. `StepResult` is what is kept of a step that was run.
-/

set_option autoImplicit false

namespace ReleasePipeline

/-- What kind of failure ended a run. -/
inductive FailureKind where
  | toolchainUnavailable
  | formatViolation
  | lintViolation
  | testFailure
  | buildFailure
  | postProcessFailure
  | publishFailure
  | aborted
  deriving DecidableEq, Repr

namespace FailureKind

/-- The name of a kind of failure. -/
def name : FailureKind → String
  | .toolchainUnavailable => "ToolchainUnavailable"
  | .formatViolation => "FormatViolation"
  | .lintViolation => "LintViolation"
  | .testFailure => "TestFailure"
  | .buildFailure => "BuildFailure"
  | .postProcessFailure => "PostProcessFailure"
  | .publishFailure => "PublishFailure"
  | .aborted => "Aborted"

/-- All kinds of failure. -/
def all : List FailureKind :=
  [.toolchainUnavailable, .formatViolation, .lintViolation, .testFailure, .buildFailure,
   .postProcessFailure, .publishFailure, .aborted]

instance : JsonForm FailureKind where
  toJson kind := .str kind.name
  ofReading := enumeration (all.map fun kind => (kind.name, .plain kind))

end FailureKind

/-- Where a variant run stands. -/
inductive Stage where
  | pending
  | installing
  | formatting
  | linting
  | testing
  | building
  | stripping
  | compressing
  | collected
  | done
  | failed (kind : FailureKind)
  deriving DecidableEq, Repr

namespace Stage

/-- The name of a stage, without the kind of a failure. -/
def name : Stage → String
  | .pending => "Pending"
  | .installing => "Installing"
  | .formatting => "Formatting"
  | .linting => "Linting"
  | .testing => "Testing"
  | .building => "Building"
  | .stripping => "Stripping"
  | .compressing => "Compressing"
  | .collected => "Collected"
  | .done => "Done"
  | .failed _ => "Failed"

/-- The stage as it is shown. -/
def text : Stage → String
  | .failed kind => "Failed(" ++ kind.name ++ ")"
  | stage => stage.name

/-- Whether no further stage can follow. -/
def isTerminal : Stage → Bool
  | .done => true
  | .failed _ => true
  | _ => false

/-- The stages that carry nothing. -/
def plain : List Stage :=
  [.pending, .installing, .formatting, .linting, .testing, .building, .stripping, .compressing,
   .collected, .done]

instance : JsonForm Stage where
  toJson
    | .failed kind => .obj [("Failed", toJson kind)]
    | stage => .str stage.name
  ofReading := enumeration <|
    plain.map (fun stage => (stage.name, .plain stage)) ++
      [("Failed", .carrying fun reading => (ofReading reading).map Stage.failed)]

end Stage

/-- The steps of a variant run. -/
inductive StepKind where
  | installToolchain
  | installCompressor
  | prepareArtifactDir
  | formatCheck
  | lint
  | test
  | build
  | strip
  | compress
  | collect
  deriving DecidableEq, Repr

namespace StepKind

/-- The steps in the order in which they run. -/
def all : List StepKind :=
  [.installToolchain, .installCompressor, .prepareArtifactDir, .formatCheck, .lint, .test,
   .build, .strip, .compress, .collect]

/-- The name of a step as it is shown. -/
def id : StepKind → String
  | .installToolchain => "install-toolchain"
  | .installCompressor => "install-compressor"
  | .prepareArtifactDir => "prepare-artifact-dir"
  | .formatCheck => "format-check"
  | .lint => "lint"
  | .test => "test"
  | .build => "build"
  | .strip => "strip"
  | .compress => "compress"
  | .collect => "collect"

/-- The name of a step as it is written in JSON. -/
def key : StepKind → String
  | .installToolchain => "install_toolchain"
  | .installCompressor => "install_compressor"
  | .prepareArtifactDir => "prepare_artifact_dir"
  | .formatCheck => "format_check"
  | .lint => "lint"
  | .test => "test"
  | .build => "build"
  | .strip => "strip"
  | .compress => "compress"
  | .collect => "collect"

/-- The kind of failure of a run that this step ends. -/
def failureKind : StepKind → FailureKind
  | .installToolchain | .installCompressor | .prepareArtifactDir => .toolchainUnavailable
  | .formatCheck => .formatViolation
  | .lint => .lintViolation
  | .test => .testFailure
  | .build => .buildFailure
  | .strip | .compress | .collect => .postProcessFailure

/-- The stage of a run that is at this step; collecting has none of its own. -/
def stage? : StepKind → Option Stage
  | .installToolchain | .installCompressor | .prepareArtifactDir => some .installing
  | .formatCheck => some .formatting
  | .lint => some .linting
  | .test => some .testing
  | .build => some .building
  | .strip => some .stripping
  | .compress => some .compressing
  | .collect => none

instance : JsonForm StepKind where
  toJson kind := .str kind.key
  ofReading := enumeration (all.map fun kind => (kind.key, .plain kind))

end StepKind

/-- What is kept of a step that was run. -/
structure StepResult where
  step : StepKind
  exitCode : Option Int32
  timedOut : Bool
  output : String
  durationMs : UInt64
  deriving DecidableEq

namespace StepResult

/-- Whether the step ended on its own, and well. -/
def succeeded (result : StepResult) : Bool :=
  !result.timedOut && result.exitCode == some 0

/-- The last lines of the output, at most `count` of them, joined by line feeds. -/
def outputTail (result : StepResult) (count : Nat) : String :=
  let all := Text.linesOf result.output
  String.intercalate "\n" (all.drop (all.length - count))

instance : JsonForm StepResult where
  toJson result := .obj
    [("step", toJson result.step), ("exit_code", toJson result.exitCode),
     ("timed_out", toJson result.timedOut), ("output", toJson result.output),
     ("duration_ms", toJson result.durationMs)]
  ofReading := Fields.record <|
    StepResult.mk <$> .required "step" <*> .optional "exit_code" <*> .required "timed_out" <*>
      .required "output" <*> .required "duration_ms"

end StepResult
end ReleasePipeline
