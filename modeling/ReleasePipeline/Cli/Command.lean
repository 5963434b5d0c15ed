import ReleasePipeline.Cli.Arguments
import ReleasePipeline.Config.Environment
import ReleasePipeline.Config.Validation
import ReleasePipeline.Console.Summary
import ReleasePipeline.Execution
import ReleasePipeline.Hosting.Client
import ReleasePipeline.Pipeline

/-!
# `ReleasePipeline.Cli.Command`: carrying out a command

A command reads its configuration from the variables, does its work at a site, and ends with what
it prints and an exit code. Before anything is run, a selection is checked against the configured
variants. A configuration without a credential or without a proper repository has no publisher,
which is found out only when there is something to publish.
-/

set_option autoImplicit false

namespace ReleasePipeline.Cli

/-- Why a command was not carried out. -/
inductive CommandError where
  | environment (error : EnvironmentError)
  | config (error : ConfigError)
  | unknownVariant (os : String) (known : List String)
  deriving DecidableEq, Repr

/-- The wording of why a command was not carried out. -/
def CommandError.message : CommandError → String
  | .environment error => "Failed to load pipeline configuration: " ++ error.message
  | .config error => "Failed to load pipeline configuration: " ++ error.message
  | .unknownVariant os known =>
    "Unknown variant '" ++ os ++ "' (available: " ++ String.intercalate ", " known ++ ")"

/-- What a command ends with. -/
structure CommandResult where
  /-- What was printed. -/
  output : String
  exitCode : UInt8
  deriving DecidableEq

/-- The configuration that variables describe. -/
def readConfig (env : String → Option String) : Except CommandError Config :=
  (Config.ofEnvironment env).mapError .environment

/-- The configuration that variables describe, if it can be worked with. -/
def loadConfig (env : String → Option String) : Except CommandError Config := do
  let config ← readConfig env
  (config.validate).mapError .config
  .ok config

/-- Checks that all selected variants are configured. -/
def checkSelection (config : Config) (only : List String) : Except CommandError Unit :=
  match only.find? fun os => !config.variants.any (·.os == os) with
  | some unknown => .error (.unknownVariant unknown (config.variants.map (·.os)))
  | none => .ok ()

/-- The configuration for the selected variants alone. -/
def selectVariants (config : Config) (only : List String) : Except CommandError Config :=
  if only.isEmpty then .ok config
  else do
    checkSelection config only
    .ok { config with variants := config.variants.filter fun variant => only.contains variant.os }

/-- A value on lines of its own. -/
def printJson (value : Json) : String :=
  value.render .indented ++ "\n"

/-- The plan of a variant as it is written in JSON. -/
def planJson (config : Config) (variant : Variant) : Json :=
  .obj
    [("os", toJson variant.os), ("name", toJson variant.name),
     ("artifact", toJson (config.artifactName variant)),
     ("steps", .arr ((Plan.ofVariant config variant).map PlannedStep.toJson))]

/-- Shows the plans of the selected variants. -/
def showPlan (env : String → Option String) (color : Bool) (only : List String) (json : Bool) :
    Except CommandError CommandResult := do
  let config ← loadConfig env
  let config ← selectVariants config only
  if json then .ok ⟨printJson (.arr (config.variants.map (planJson config))), 0⟩
  else .ok ⟨Console.plansText color config, 0⟩

/-- Shows what the release of a commit would be. -/
def showRelease (color json : Bool) (descriptor : ReleaseDescriptor) : CommandResult where
  output :=
    if json then printJson (toJson descriptor) else Console.descriptorText color descriptor
  exitCode := 0

/-- What set the pipeline going. -/
def PushArgs.trigger (args : PushArgs) : Trigger :=
  .ofPush args.branch args.tag args.commit

/-- Shows an outcome. -/
def showOutcome (color json : Bool) (outcome : PipelineOutcome) : CommandResult where
  output := if json then printJson (toJson outcome) else Console.outcomeText color outcome
  exitCode := outcome.exitCode

section
variable {m : Type → Type} [Monad m]

/-- The publisher of a configuration, if it has what publishing needs. -/
def publisher? (site : Site m) (transport : Http.Transport m) (config : Config) :
    Option (Publisher m) :=
  match config.validateForPublish with
  | .ok (token, repository) =>
    let client := ReleaseClient.connect config.releaseApiUrl repository token
    some (Publish.publisher (client.host transport) site.toFiles)
  | .error _ => none

/-- Runs the selected variants. -/
def runVariants (site : Site m) (transport : Http.Transport m) (color : Bool) (config : Config)
    (args : RunArgs) : m (Except RunError CommandResult) := do
  let pipeline : Pipeline m :=
    { config := config
      selection := args.only
      deferPublish := args.noPublish
      cap := args.jobs
      publisher := if args.noPublish then none else publisher? site transport config
      clock := site.now }
  let outcome ← pipeline.run site (Execution.execute site) args.push.trigger
  pure (outcome.map (showOutcome color args.json))

/-- Publishes what earlier runs left behind. -/
def publishReports (site : Site m) (transport : Http.Transport m) (color : Bool) (config : Config)
    (push : PushArgs) (json : Bool) : m CommandResult := do
  let pipeline : Pipeline m :=
    { config := config
      selection := []
      deferPublish := false
      cap := none
      publisher := publisher? site transport config
      clock := site.now }
  let outcome ← pipeline.aggregate site push.trigger
  pure (showOutcome color json outcome)

/-- Carries out a command. -/
def runCommand (site : Site m) (transport : Http.Transport m) (env : String → Option String)
    (color : Bool) : CliCommand → m (Except RunError (Except CommandError CommandResult))
  | .plan only json => pure (.ok (showPlan env color only json))
  | .releaseName commit json =>
    -- Reading is enough: a configuration that could not be worked with still names a release. One
    -- that cannot even be read ends the command before the clock is asked.
    match readConfig env with
    | .error error => pure (.ok (.error error))
    | .ok config => do
      let now ← site.now
      pure (.ok (.ok (showRelease color json (.compute config commit now))))
  | .publish push json =>
    match loadConfig env with
    | .error error => pure (.ok (.error error))
    | .ok config => do
      let result ← publishReports site transport color config push json
      pure (.ok (.ok result))
  | .run args =>
    -- The selection is only checked here. It is the pipeline that leaves the other variants out.
    match (do let config ← loadConfig env; checkSelection config args.only; pure config) with
    | .error error => pure (.ok (.error error))
    | .ok config => do
      let result ← runVariants site transport color config args
      pure (result.map .ok)

end
end ReleasePipeline.Cli
