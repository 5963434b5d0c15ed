import ReleasePipeline.Artifact
import ReleasePipeline.Step
import ReleasePipeline.Text.Pad

/-!
# `ReleasePipeline.Plan`: what a variant run is going to do

The plan of a variant is its ten steps in order, each with what it does: run a command, make a
directory, or copy a file. Stripping and compressing are handed the very path that is copied in
the end.
-/

set_option autoImplicit false

namespace ReleasePipeline

/-- What a step does. -/
inductive StepAction where
  | run (command : Command)
  | createDir (path : Path)
  | copy (source target : Path)
  deriving DecidableEq, Repr

namespace StepAction

/-- The action as a line of a shell. -/
def text : StepAction → String
  | .run command => command.text
  | .createDir path => "mkdir -p " ++ path.text
  | .copy source target => "cp " ++ source.text ++ " " ++ target.text

/-- The action as it is written in JSON, with its kind under `type`. -/
def toJson : StepAction → Json
  | .run command => .obj [("type", .str "run"), ("command", JsonForm.toJson command)]
  | .createDir path => .obj [("type", .str "create_dir"), ("path", JsonForm.toJson path)]
  | .copy source target =>
    .obj [("type", .str "copy"), ("from", JsonForm.toJson source), ("to", JsonForm.toJson target)]

/-- The command of an action that runs one. -/
def command? : StepAction → Option Command
  | .run command => some command
  | _ => none

end StepAction

/-- A step of a plan. -/
structure PlannedStep where
  kind : StepKind
  action : StepAction
  deriving DecidableEq, Repr

namespace PlannedStep

/-- The width of the column that holds the name of a step. -/
def nameWidth : Nat := 22

/-- The step on one line. -/
def text (step : PlannedStep) : String :=
  Text.alignLeft nameWidth step.kind.id ++ " " ++ step.action.text

/-- The step as it is written in JSON. -/
def toJson (step : PlannedStep) : Json :=
  .obj [("kind", JsonForm.toJson step.kind), ("action", step.action.toJson)]

end PlannedStep

namespace Plan

/-- The components that the tools of the first step install. -/
def toolchainComponents : List String := ["rustfmt", "clippy"]

/-- A step that runs a command. -/
def runStep (kind : StepKind) (program : String) (args : List String) : PlannedStep :=
  ⟨kind, .run ⟨program, args⟩⟩

/-- The plan of a variant. -/
def ofVariant (config : Config) (variant : Variant) : List PlannedStep :=
  [runStep .installToolchain "rustup" (["component", "add"] ++ toolchainComponents),
   ⟨.installCompressor, .run variant.compressorInstall⟩,
   ⟨.prepareArtifactDir, .createDir config.artifactPath⟩,
   runStep .formatCheck "cargo" ["fmt", "--all", "--", "--check"],
   runStep .lint "cargo" ["clippy", "--all"],
   runStep .test "cargo" ["test", "--all"],
   runStep .build "cargo" ["build", "--release"],
   runStep .strip "strip" [config.buildOutput.text],
   runStep .compress "upx" ["--best", config.buildOutput.text],
   ⟨.collect, .copy config.buildOutput (config.artifactPath.join (config.artifactName variant))⟩]

end Plan
end ReleasePipeline
