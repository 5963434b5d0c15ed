import ReleasePipeline.Cli.Options

/-!
# `ReleasePipeline.Cli.Arguments`: the commands of the command line

There are four commands. What set the pipeline going can be told by options or, where an option is
missing, by variables.
-/

set_option autoImplicit false

namespace ReleasePipeline.Cli

/-- What set a pipeline going, as it is told on the command line. -/
structure PushArgs where
  branch : String
  tag : Option String
  commit : String
  deriving DecidableEq, Repr

/-- What the command that runs variants is told. -/
structure RunArgs where
  push : PushArgs
  /-- The identifiers of the variants to run. -/
  only : List String
  noPublish : Bool
  jobs : Option Nat
  json : Bool
  deriving DecidableEq, Repr

/-- A command of the command line. -/
inductive CliCommand where
  | run (args : RunArgs)
  /-- Publishes what earlier runs left behind. -/
  | publish (push : PushArgs) (json : Bool)
  | plan (only : List String) (json : Bool)
  | releaseName (commit : String) (json : Bool)
  deriving DecidableEq, Repr

/-- The options that tell what set a pipeline going. -/
def pushOptions : List OptionSpec :=
  [⟨"branch", .text⟩, ⟨"tag", .text⟩, ⟨"commit", .text⟩]

/-- The options of the command that runs variants. -/
def runOptions : List OptionSpec :=
  pushOptions ++ [⟨"only", .texts⟩, ⟨"no-publish", .flag⟩, ⟨"jobs", .count⟩, ⟨"json", .flag⟩]

/-- The options of the command that publishes. -/
def publishOptions : List OptionSpec :=
  pushOptions ++ [⟨"json", .flag⟩]

/-- The options of the command that shows plans. -/
def planOptions : List OptionSpec :=
  [⟨"only", .texts⟩, ⟨"json", .flag⟩]

/-- The options of the command that shows the name of a release. -/
def releaseNameOptions : List OptionSpec :=
  [⟨"commit", .text⟩, ⟨"json", .flag⟩]

section
variable (env : String → Option String) (given : List GivenOption)

/-- The value of an option, or of the variable that stands for it. -/
def told? (name variableName : String) : Option String :=
  (valueOf? given name).or (env variableName)

/-- The value of an option that has to be told in one way or the other. -/
def told (name variableName : String) : Except UsageError String :=
  match told? env given name variableName with
  | some value => .ok value
  | none => .error .missingRequiredArgument

/-- The commit. -/
def toldCommit : Except UsageError String :=
  told env given "commit" "PIPELINE_COMMIT"

/-- What set the pipeline going. -/
def toldPush : Except UsageError PushArgs := do
  let branch ← told env given "branch" "PIPELINE_BRANCH"
  let commit ← toldCommit env given
  .ok ⟨branch, told? env given "tag" "PIPELINE_TAG", commit⟩

/-- Whether an option was given. -/
def isGiven (name : String) : Bool :=
  (valueOf? given name).isSome

/-- The number of jobs, if one was given. -/
def givenJobs? : Option Nat :=
  -- A value that is no number was refused when the options were read.
  (valueOf? given "jobs").bind fun value => (Text.readCount value.toList).toOption

end

/-- Reads the arguments of a command. `none` if there is no such command. -/
def readCommand (env : String → Option String) (name : String) (args : List String) :
    Option (Except UsageError CliCommand) :=
  if name = "run" then some do
    let given ← readOptions runOptions .start args
    let push ← toldPush env given
    .ok (.run
      { push := push
        only := valuesOf given "only"
        noPublish := isGiven given "no-publish"
        jobs := givenJobs? given
        json := isGiven given "json" })
  else if name = "publish" then some do
    let given ← readOptions publishOptions .start args
    let push ← toldPush env given
    .ok (.publish push (isGiven given "json"))
  else if name = "plan" then some do
    let given ← readOptions planOptions .start args
    .ok (.plan (valuesOf given "only") (isGiven given "json"))
  else if name = "release-name" then some do
    let given ← readOptions releaseNameOptions .start args
    let commit ← toldCommit env given
    .ok (.releaseName commit (isGiven given "json"))
  else none

/-- The names of all commands. -/
def commandNames : List String :=
  ["run", "publish", "plan", "release-name", "help"]

/-- What is to be shown when help is asked for about some commands, each inside the one before. -/
def readHelp : List String → UsageError
  | [] => .displayHelp
  | [name] => if name ∈ commandNames then .displayHelp else .invalidSubcommand
  | _ => .invalidSubcommand

/-- Reads a command line. -/
def readArguments (env : String → Option String) : List String → Except UsageError CliCommand
  | [] => .error .displayHelpOnMissing
  | text :: rest =>
    match Argument.ofText text with
    | .escape =>
      match rest with
      | [] => .error .displayHelpOnMissing
      | name :: _ =>
        if name ∈ commandNames then .error .unknownArgument else .error .invalidSubcommand
    | .long name attached =>
      if name = "help" ∨ name = "version" then
        if attached.isSome then .error .tooManyValues
        else if name = "help" then .error .displayHelp
        else .error .displayVersion
      else .error .unknownArgument
    | .short letters =>
      if letters.head? = some 'h' then .error .displayHelp
      else if letters.head? = some 'V' then .error .displayVersion
      else .error .unknownArgument
    | .word name =>
      if name = "help" then .error (readHelp rest)
      else (readCommand env name rest).getD (.error .invalidSubcommand)

end ReleasePipeline.Cli
