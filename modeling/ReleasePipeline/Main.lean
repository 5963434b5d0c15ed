import ReleasePipeline.Cli.Command
import ReleasePipeline.Machine

/-!
# `ReleasePipeline.Main`: the program

Reads the command line and the variables, carries out the command on this machine, and prints what
it ends with. Colours are used on a terminal, unless they are not wanted.
-/

set_option autoImplicit false

namespace ReleasePipeline

/-- The variables that the program looks at. -/
def variableNames : List String :=
  ["PIPELINE_BRANCH", "PIPELINE_TAG", "PIPELINE_COMMIT", "BINARY_NAME", "RELEASE_BRANCH",
    "RELEASE_REPOSITORY", "RELEASE_API_URL", "GITHUB_TOKEN", "SOURCE_DIR", "ARTIFACT_DIR",
    "STEP_TIMEOUT", "NO_COLOR", Config.resolverVariable] ++ Config.staticLinkToggles

/-- Reads the variables. -/
def readVariables : IO Bindings := do
  let found ← variableNames.filterMapM fun name => do
    let value ← IO.getEnv name
    pure (value.map (name, ·))
  pure (Bindings.ofList found)

/-- How the program is called. -/
def usageText : String :=
  String.intercalate "\n"
    ["Usage: release-pipeline <COMMAND>",
     "",
     "Commands:",
     "  run           Run the pipeline: check, build, compress and publish",
     "  publish       Publish from the reports of every variant, once all were built",
     "  plan          Print the steps each variant would run, without running them",
     "  release-name  Print the release descriptor a publish would use",
     ""]

/-- Ends on a command line that cannot be carried out. Help that was asked for is no failure. -/
def endUsage : Cli.UsageError → IO UInt32
  | .displayHelp => do
    IO.print usageText
    pure 0
  | .displayVersion => do
    IO.println "release-pipeline"
    pure 0
  | .displayHelpOnMissing => do
    IO.eprint usageText
    pure 2
  | error => do
    IO.eprint ("error: " ++ error.name ++ "\n\n" ++ usageText)
    pure 2

/-- Ends on what a command came to. -/
def endCommand :
    Except RunError (Except Cli.CommandError Cli.CommandResult) → IO UInt32
  | .error (.tooManyPlaces _) => do
    IO.eprintln "too many variants at once"
    pure 101
  | .ok (.error error) => do
    IO.eprintln ("Error: " ++ error.message)
    pure 1
  | .ok (.ok result) => do
    IO.print result.output
    pure result.exitCode.toUInt32

end ReleasePipeline

open ReleasePipeline in
/-- The program. -/
def main (args : List String) : IO UInt32 := do
  let env ← readVariables
  match Cli.readArguments env.get? args with
  | .error error => endUsage error
  | .ok command =>
    let terminal ← (← IO.getStdout).isTty
    let color := terminal && (env.get? "NO_COLOR").isNone
    endCommand (← Cli.runCommand Machine.site Machine.transport env.get? color command)
